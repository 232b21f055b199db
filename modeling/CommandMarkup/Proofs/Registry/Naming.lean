import CommandMarkup.Proofs.Registry.Store
import CommandMarkup.Proofs.Text.Lowering

/-! Which texts a registry takes for the name of a command. Registering looks at the text as it is
given, resolving at its lower case. The two part at the Kelvin sign, which is no letter of names but
has one as its lower case, and nowhere else.

Main statement: `run_names`, and `resolve_kelvin` for the Kelvin sign. -/
namespace CommandMarkup.Registry

variable {ω : Type} {r : Registry ω} {as : List (Action ω)} {s : State ω} {t u : Text}

/-- Resolving the text comes to nothing, and no module is looked up. -/
def Unresolvable (r : Registry ω) (t : Text) (s : State ω) : Prop :=
  ∃ after, r.resolve t s = .ok none after ∧ after.probes = s.probes

/-- What registering and resolving take for a name. Texts that resolve to handles share one when
they are the same name in whatever case, with the letter for the Kelvin sign. -/
structure Naming (r : Registry ω) (s : State ω) : Prop where
  register : ∀ t, Call.isName t = false →
    ∀ source, r.register t source s = .error (.invalidName t) s
  resolve : ∀ t, Call.isName t = false → '\u212a' ∉ t → r.Unresolvable t s
  kelvin : ∀ t, '\u212a' ∈ t → Call.isName t = false ∧
    if Call.isName (t.map Text.latin) then r.resolve t s = r.resolve (t.map Text.latin) s
    else r.Unresolvable t s
  share : ∀ t u later handle held, (r.resolve t s).result = .ok (some handle) →
    (r.resolve u (run r later (r.resolve t s).state)).result = .ok (some held) →
    Call.isName (t.map Text.latin) = true ∧ Call.isName (u.map Text.latin) = true ∧
      (handle.serial = held.serial ↔
        (t.map Text.latin).map Char.toLower = (u.map Text.latin).map Char.toLower)

theorem build_unnamed (r : Registry ω) {name : Text} (hName : Call.isName name = false)
    (host : Host ω) : r.build name host = giveUp name host := by
  rw [build, hName, if_neg Bool.false_ne_true]

/-- A text that is no name in small letters resolves to none, and no module is looked up for it. -/
theorem resolve_unnamed (hSound : Sound r as s) (h : Call.isName (Text.lower t) = false) :
    r.Unresolvable t s := by
  rcases resolve_cases r t s with ⟨entry, hKnown, hResolve⟩ |
    ⟨_, entry, host, hBuild, hResolve⟩ | ⟨_, fault, host, hBuild, _⟩
  · cases entry with
    | none => exact ⟨s, hResolve, rfl⟩
    | some handle =>
        have hName := (hSound.name _ handle hKnown).2
        rw [h] at hName
        cases hName
  · rw [build_unnamed r h] at hBuild
    cases hBuild
    exact ⟨_, hResolve, rfl⟩
  · rw [build_unnamed r h] at hBuild
    cases hBuild

/-- Resolving asks for nothing but the lower case. -/
theorem resolve_congr (r : Registry ω) (h : Text.lower t = Text.lower u) (s : State ω) :
    r.resolve t s = r.resolve u s := by
  rw [resolve, resolve, h]

/-- What resolves to a handle is a name when it is read with the letter for the Kelvin sign. -/
theorem isName_of_resolve (hSound : Sound r as s) {handle : Handle ω}
    (h : (r.resolve t s).result = .ok (some handle)) :
    Call.isName (t.map Text.latin) = true := by
  cases hName : Call.isName (t.map Text.latin) with
  | true => rfl
  | false =>
      rw [← Call.isName_lower] at hName
      obtain ⟨after, hResolve, _⟩ := resolve_unnamed hSound hName
      rw [hResolve] at h
      cases h

/-- Handles are the same exactly when they are under the same key, also when one was resolved
later. -/
theorem share_key (host : Host ω) (as later : List (Action ω)) {handle held : Handle ω} :
    let s := run r as (start host)
    let s' := run r later (r.resolve t s).state
    (r.resolve t s).result = .ok (some handle) → (r.resolve u s').result = .ok (some held) →
      Call.isName (u.map Text.latin) = true ∧
        (handle.serial = held.serial ↔ Text.lower t = Text.lower u) := by
  intro s s' hHandle hHeld
  have hLater : s' = run r (as ++ .resolve t :: later) (start host) := by
    rw [run_append]
    rfl
  have hSound' : Sound r (as ++ .resolve t :: later) s' := hLater ▸ sound_run r host _
  have hKept : s'.handles.get? (Text.lower t) = some (some handle) :=
    handle_run (resolve_held hHandle) r later
  refine ⟨isName_of_resolve hSound' hHeld, ?_, ?_⟩
  · intro hSerial
    have hAfter : Sound r (as ++ .resolve t :: later) (r.resolve u s').state :=
      sound_after (x := .resolve u) nofun hSound'
    exact hAfter.distinct _ _ handle held (Step.handle_after hKept r (.resolve u))
      (resolve_held hHeld) hSerial
  · intro hKey
    rw [hKey] at hKept
    rw [resolve_known r hKept] at hHeld
    cases hHeld
    rfl

/-- After any run, what is no name cannot be registered, and it cannot be resolved either unless
there is a Kelvin sign in it. -/
theorem run_names (r : Registry ω) (host : Host ω) (as : List (Action ω)) :
    Naming r (run r as (start host)) where
  register := fun _ hName source => register_invalid r source _ hName
  resolve := by
    intro t hName hKelvin
    refine resolve_unnamed (sound_run r host as) ?_
    rw [Call.isName_lower, Text.map_latin_of_not_mem hKelvin, hName]
  kelvin := by
    intro t hKelvin
    refine ⟨Call.isName_eq_false hKelvin (by decide), ?_⟩
    split
    case isTrue hName => exact resolve_congr r (Call.lower_map_latin hName).symm _
    case isFalse hName =>
      rw [← Call.isName_lower, Bool.not_eq_true] at hName
      exact resolve_unnamed (sound_run r host as) hName
  share := by
    intro t u later handle held hHandle hHeld
    obtain ⟨hu, hSerial⟩ := share_key host as later hHandle hHeld
    have ht := isName_of_resolve (sound_run r host as) hHandle
    rw [← Call.lower_eq_of_isName ht, ← Call.lower_eq_of_isName hu]
    exact ⟨ht, hu, hSerial⟩

/-- The Kelvin sign is no name and cannot be registered, but it resolves to the handle of the
command `k`, or is looked for in the packages. -/
theorem resolve_kelvin :
    let r : Registry Unit := { environment := ⟨fun name => .missing name⟩ }
    let s := run r [.register ['k'] (.ofClass .plain)] (start ⟨(), [], [], 0⟩)
    let handle : Handle Unit := ⟨['k'], registeredModule, .plain "CommandHandler".toList, 0⟩
    Call.isName ['\u212a'] = false ∧
      r.register ['\u212a'] (.ofClass .plain) s = .error (.invalidName ['\u212a']) s ∧
      (r.resolve ['\u212a'] s).result = .ok (some handle) ∧
      (r.resolve ['k'] s).result = .ok (some handle) ∧
      (r.resolve ['\u212a'] (start ⟨(), [], [], 0⟩)).state.probes = ["embedcmd.ext.k".toList] := by
  intro r s handle
  have hLower : Text.lower ['\u212a'] = Text.lower ['k'] := by decide +kernel
  rw [resolve_congr r hLower, resolve_congr r hLower]
  exact ⟨rfl, rfl, rfl, rfl, rfl⟩

end CommandMarkup.Registry
