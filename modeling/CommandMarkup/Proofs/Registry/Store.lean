import CommandMarkup.Proofs.Registry.Run

/-! The table of handles over whole runs. Every state that a run leads to is sound, a handle that
is remembered is remembered for good, and a name that is remembered to have none is not searched
for again; only registering it gives it a handle.

Main statement: `run_remembers`. -/
namespace CommandMarkup.Registry

variable {ω : Type}

/-- What is true of the table of handles after a run of those actions. -/
structure Sound (r : Registry ω) (as : List (Action ω)) (s : State ω) : Prop where
  key : ∀ key entry, s.handles.get? key = some entry → ∃ name, Text.lower name = key
  name : ∀ key handle, s.handles.get? key = some (some handle) →
    handle.name = key ∧ Call.isName key = true
  serial : ∀ key handle, s.handles.get? key = some (some handle) → handle.serial < s.nextSerial
  distinct : ∀ key other handle held, s.handles.get? key = some (some handle) →
    s.handles.get? other = some (some held) → handle.serial = held.serial → key = other
  settings : ∀ key handle, s.handles.get? key = some (some handle) →
    r.Loads handle ∨ ∃ name source, .register name source ∈ as ∧ Text.lower name = key ∧
      source.Yields r.settings handle.handler ∧ handle.moduleName = registeredModule

theorem sound_start (r : Registry ω) (as : List (Action ω)) (host : Host ω) :
    Sound r as (start host) := ⟨nofun, nofun, nofun, nofun, nofun⟩

/-- A step keeps the table of handles sound, if what it registers is among the registrations of the
run. -/
theorem sound_after {r : Registry ω} {as : List (Action ω)} {x : Step ω} {s : State ω}
    (hRegister : ∀ name source, x = .register name source → .register name source ∈ as)
    (h : Sound r as s) : Sound r as (x.after r s) where
  key := by
    intro key entry hEntry
    cases Step.entry_after r x s key with
    | kept hSame => exact h.key key entry (hSame.symm.trans hEntry)
    | absent name _ hKey => exact ⟨name, hKey⟩
    | made handle hKey _ hMade =>
        subst hKey
        rcases hMade.step with ⟨name, _, hName, _⟩ | ⟨name, source, _, hName, _⟩
        · exact ⟨name, hName⟩
        · exact ⟨name, hName⟩
  name := by
    intro key handle hHandle
    rcases Step.held_after hHandle with hHeld | ⟨hKey, hMade⟩
    · exact h.name key handle hHeld
    · exact ⟨hKey, hKey ▸ hMade.name⟩
  serial := by
    intro key handle hHandle
    rcases Step.held_after hHandle with hHeld | ⟨_, hMade⟩
    · exact Nat.lt_of_lt_of_le (h.serial key handle hHeld) (Step.nextSerial_after r x s)
    · exact hMade.next
  distinct := by
    intro key other handle held hHandle hOther hSerial
    rcases Step.held_after hHandle with hHeld | ⟨hKey, hMade⟩
    · rcases Step.held_after hOther with hHeld' | ⟨hKey', hMade'⟩
      · exact h.distinct key other handle held hHeld hHeld' hSerial
      · have hOld := h.serial key handle hHeld
        have hNew := hMade'.old
        omega
    · rcases Step.held_after hOther with hHeld' | ⟨hKey', hMade'⟩
      · have hOld := h.serial other held hHeld'
        have hNew := hMade.old
        omega
      · have hSubject := hMade.subject.symm.trans hMade'.subject
        rw [hKey, hKey'] at hSubject
        exact Option.some.inj hSubject
  settings := by
    intro key handle hHandle
    rcases Step.held_after hHandle with hHeld | ⟨hKey, hMade⟩
    · exact h.settings key handle hHeld
    · rcases hMade.makes with hLoads | ⟨name, source, hStep, hName, hYields, hModule⟩
      · exact .inl hLoads
      · exact .inr ⟨name, source, hRegister name source hStep, hName.trans hKey, hYields, hModule⟩

/-- After every run from the start the table of handles is sound. -/
theorem sound_run (r : Registry ω) (host : Host ω) (as : List (Action ω)) :
    Sound r as (run r as (start host)) := by
  rw [← afterAll_trace]
  refine afterAll_keeps ?_ (sound_start r as host)
  intro x hx s
  refine sound_after ?_
  intro name source hRegister
  subst hRegister
  exact mem_trace_register hx

/-- What a state decides about the names that it remembers, whatever is done later. -/
structure Permanent (r : Registry ω) (s : State ω) : Prop where
  handle : ∀ key handle, s.handles.get? key = some (some handle) → ∀ later : List (Action ω),
    (run r later s).handles.get? key = some (some handle) ∧
    ∀ name, Text.lower name = key →
      r.resolve name (run r later s) = .ok (some handle) (run r later s)
  absent : ∀ key, s.handles.get? key = some none → ∀ later : List (Action ω),
    (∀ before name source after, later = before ++ .register name source :: after →
      Text.lower name = key →
      ∀ handle, (r.register name source (run r before s)).result ≠ .ok handle) →
    (run r later s).handles.get? key = some none ∧
    ∀ name, Text.lower name = key → r.resolve name (run r later s) = .ok none (run r later s)
  search : ∀ later : List (Action ω), ∃ new, (run r later s).probes = s.probes ++ new ∧
    (∀ moduleName ∈ new, r.SearchesFor s moduleName) ∧
    ∀ name, Call.isName name = true → s.handles.get? name ≠ none →
      ∀ package, moduleNameIn package name ∉ new

theorem handle_afterAll {s : State ω} {key : Text} {handle : Handle ω}
    (h : s.handles.get? key = some (some handle)) (r : Registry ω) (xs : List (Step ω)) :
    (Step.afterAll r xs s).handles.get? key = some (some handle) :=
  afterAll_keeps (P := fun s => s.handles.get? key = some (some handle))
    (fun x _ _ hs => Step.handle_after hs r x) h

/-- A handle in the table stays there through every run. -/
theorem handle_run {s : State ω} {key : Text} {handle : Handle ω}
    (h : s.handles.get? key = some (some handle)) (r : Registry ω) (as : List (Action ω)) :
    (run r as s).handles.get? key = some (some handle) := by
  rw [← afterAll_trace]
  exact handle_afterAll h r (trace r as s)

theorem absent_action {s : State ω} {key : Text} (h : s.handles.get? key = some none)
    (r : Registry ω) (a : Action ω) : (a.after r s).handles.get? key = some none ∨
      ∃ name source handle, a = .register name source ∧ Text.lower name = key ∧
        (r.register name source s).result = .ok handle := by
  by_cases hRegister : ∃ name source, a = .register name source
  · obtain ⟨name, source, rfl⟩ := hRegister
    rcases Step.absent_after h r (.register name source) with hAfter | ⟨_, _, handle, hStep, hRest⟩
    · exact .inl hAfter
    · cases hStep
      exact .inr ⟨name, source, handle, rfl, hRest⟩
  · left
    rw [← afterAll_steps]
    refine afterAll_keeps (P := fun s => s.handles.get? key = some none) ?_ h
    intro x hx t ht
    rcases Step.absent_after ht r x with hAfter | ⟨name, source, _, rfl, _⟩
    · exact hAfter
    · cases Action.part_of_mem_steps hx with
      | register hAction => exact absurd ⟨name, source, hAction⟩ hRegister

/-- A name that is remembered without a handle stays so, until a registration under it succeeds. -/
theorem absent_run {r : Registry ω} {s : State ω} {key : Text}
    (h : s.handles.get? key = some none) {later : List (Action ω)}
    (hLater : ∀ before name source after, later = before ++ .register name source :: after →
      Text.lower name = key →
      ∀ handle, (r.register name source (run r before s)).result ≠ .ok handle) :
    (run r later s).handles.get? key = some none := by
  induction later generalizing s with
  | nil => exact h
  | cons a as ih =>
      rcases absent_action h r a with hAfter | ⟨name, source, handle, rfl, hName, hResult⟩
      · refine ih hAfter ?_
        intro before name source after hSplit
        exact hLater (a :: before) name source after (by rw [hSplit, List.cons_append])
      · exact absurd hResult (hLater [] name source as rfl hName handle)

/-- A module name has a last dot, and the name after it, since names have no dots. -/
theorem moduleNameIn_inj {package other name found : Text} (hName : Call.isName name = true)
    (hFound : Call.isName found = true)
    (h : moduleNameIn package name = moduleNameIn other found) : name = found := by
  have hDot : ∀ t : Text, Call.isName t = true → '.' ∉ t.reverse := by
    intro t ht hMem
    have hChar := Call.isNameChar_of_isName ht '.' (List.mem_reverse.mp hMem)
    exact absurd hChar (by decide)
  have hCut : ∀ p t : Text, Call.isName t = true →
      Text.cut '.' (moduleNameIn p t).reverse = (t.reverse, some p.reverse) := by
    intro p t ht
    rw [Text.cut_eq_some_iff]
    exact ⟨by simp [moduleNameIn], hDot t ht⟩
  have hPair := hCut package name hName
  rw [h, hCut other found hFound, Prod.mk.injEq] at hPair
  exact (List.reverse_injective hPair.1).symm

/-- Through a run only names without an entry are looked up. -/
theorem probes_run (r : Registry ω) (s : State ω) (as : List (Action ω)) :
    Adds (r.SearchesFor s) s.probes (run r as s).probes := by
  rw [← afterAll_trace]
  generalize trace r as s = xs
  induction xs generalizing s with
  | nil => exact .refl _ _
  | cons x xs ih =>
      rw [afterAll_cons]
      apply (Step.probes_after r x s).trans
      apply (ih (x.after r s)).mono
      -- What has no entry after the step had none before it.
      intro moduleName hModule
      obtain ⟨name, hName, hNew, hPackage⟩ := hModule
      refine ⟨name, hName, ?_, hPackage⟩
      by_contra hKnown
      exact Step.entry_known hKnown r x hNew

/-- The fields are the invariants above at the end of a run. -/
theorem permanent (r : Registry ω) (s : State ω) : Permanent r s where
  handle := by
    intro key handle h later
    have hLater := handle_run h r later
    refine ⟨hLater, ?_⟩
    intro name hName
    subst hName
    exact resolve_known r hLater
  absent := by
    intro key h later hUnregistered
    have hLater := absent_run h hUnregistered
    refine ⟨hLater, ?_⟩
    intro name hName
    subst hName
    exact resolve_known r hLater
  search := by
    intro later
    obtain ⟨new, hProbes, hNew⟩ := probes_run r s later
    refine ⟨new, hProbes, hNew, ?_⟩
    intro name hName hKnown package hMem
    obtain ⟨other, hOther, hUnmet, found, _, hModule⟩ := hNew _ hMem
    rw [← moduleNameIn_inj hName hOther hModule] at hUnmet
    exact hKnown hUnmet

/-- When a registration succeeds, with which fault it fails, and what it leaves. -/
structure Registering (r : Registry ω) (s : State ω) (name : Text) (source : Source ω) :
    Prop where
  /-- A class that cannot be constructed fails a registration under a name with its own fault. -/
  broken : ∀ fault, (source.obtain r.settings s).result = .error fault →
    (r.register name source s).result =
      .error (if Call.isName name then fault else .invalidName name)
  verdict : ∀ handler, (source.obtain r.settings s).result = .ok handler →
    ((r.register name source s).result = .error (.invalidName name) ↔
      Call.isName name = false) ∧
    ((r.register name source s).result = .error (.alreadyResolved (Text.lower name)) ↔
      Call.isName name = true ∧ ∃ held, s.handles.get? (Text.lower name) = some (some held)) ∧
    ((∃ handle, (r.register name source s).result = .ok handle) ↔
      Call.isName name = true ∧ ¬ ∃ held, s.handles.get? (Text.lower name) = some (some held))
  made : ∀ handle, (r.register name source s).result = .ok handle →
    handle.name = Text.lower name ∧ source.Yields r.settings handle.handler ∧
    (r.register name source s).state.handles = s.handles.put (Text.lower name) (some handle)
  failed : ∀ fault, (r.register name source s).result = .error fault →
    (r.register name source s).state =
      { s with world := (r.register name source s).state.world }

theorem registering (r : Registry ω) (s : State ω) (name : Text) (source : Source ω) :
    Registering r s name source where
  broken := by
    intro fault hSource
    cases hName : Call.isName name with
    | false =>
        rw [register_invalid r source s hName]
        rfl
    | true =>
        rw [register_fault hName hSource]
        rfl
  verdict := by
    intro handler hSource
    cases hName : Call.isName name with
    | false =>
        rw [register_invalid r source s hName]
        simp [Outcome.error]
    | true =>
        by_cases hHeld : ∃ held, s.handles.get? (Text.lower name) = some (some held)
        · obtain ⟨held, hGet⟩ := hHeld
          rw [register_held hName hSource hGet]
          simp [Outcome.error, hGet]
        · rw [register_free hName hSource (not_exists.mp hHeld)]
          simp [Outcome.ok, hHeld]
  made := by
    intro handle hResult
    rcases register_cases r name source s with
      ⟨fault, world, hFail⟩ | ⟨handler, _, hYields, _, hMade, hState⟩
    · rw [hFail] at hResult
      cases hResult
    · rw [hMade] at hResult
      cases hResult
      exact ⟨rfl, hYields, by rw [hState, State.note, State.remember]⟩
  failed := by
    intro fault hResult
    rcases register_cases r name source s with
      ⟨fault, world, hFail⟩ | ⟨handler, _, _, _, hMade, _⟩
    · rw [hFail]
      rfl
    · rw [hMade] at hResult
      cases hResult

/-- What a name resolves to is its entry afterwards. -/
theorem resolve_held {r : Registry ω} {name : Text} {s : State ω} {entry : Option (Handle ω)}
    (h : (r.resolve name s).result = .ok entry) :
    (r.resolve name s).state.handles.get? (Text.lower name) = some entry := by
  rcases resolve_cases r name s with ⟨known, hKnown, hResolve⟩ |
    ⟨_, built, host, _, hResolve⟩ | ⟨_, fault, host, _, hResolve⟩
  · rw [hResolve] at h ⊢
    cases h
    exact hKnown
  · rw [hResolve] at h ⊢
    cases h
    exact Table.get?_put_self _ _ _
  · rw [hResolve] at h
    cases h

/-- A handle that a name resolves to has the name, and is in the table. -/
theorem resolve_named {r : Registry ω} {as : List (Action ω)} {s : State ω}
    (hSound : Sound r as s) {name : Text} {handle : Handle ω}
    (h : (r.resolve name s).result = .ok (some handle)) :
    handle.name = Text.lower name ∧
      (r.resolve name s).state.handles.get? handle.name = some (some handle) := by
  have hHeld := resolve_held h
  have hAfter : Sound r as (Step.after r (.resolve name) s) := sound_after nofun hSound
  have hName := (hAfter.name _ handle hHeld).1
  rw [← hName] at hHeld
  exact ⟨hName, hHeld⟩

/-- The steps of an action are about the name that the action is about, or about none. -/
theorem subject_of_mem_steps {r : Registry ω} {as : List (Action ω)} {s : State ω}
    (hSound : Sound r as s) {a : Action ω} {x : Step ω} (h : x ∈ a.steps r s) :
    x.subject = none ∨ x.subject = a.subject := by
  cases Action.part_of_mem_steps h with
  | register hAction =>
      rw [hAction]
      exact .inr rfl
  | resolve hSubject => exact .inr hSubject.symm
  | passed _ hSubject => exact .inr hSubject.symm
  | @found name handle operation rest hSubject hFound _ =>
      right
      rw [hSubject, Step.subject, (resolve_named hSound hFound).1]
  | work => exact .inl rfl
  | remark => exact .inl rfl

/-- An action leaves the entries and the targets of all names alone but that of its subject. -/
theorem action_frame {r : Registry ω} {as : List (Action ω)} {s : State ω}
    (hSound : Sound r as s) {a : Action ω} {key : Text} (hSubject : a.subject ≠ some key) :
    (a.after r s).handles.get? key = s.handles.get? key ∧
    ∀ operation, (a.after r s).targets.get? (key, operation) =
      s.targets.get? (key, operation) := by
  rw [← afterAll_steps]
  refine afterAll_keeps (P := fun t => t.handles.get? key = s.handles.get? key ∧
    ∀ operation, t.targets.get? (key, operation) = s.targets.get? (key, operation))
    ?_ ⟨rfl, fun _ => rfl⟩
  intro x hx t ht
  obtain ⟨hHandles, hTargets⟩ := ht
  have hOther : x.subject ≠ some key := by
    intro hKey
    rcases subject_of_mem_steps hSound hx with hNone | hSame
    · rw [hNone] at hKey
      cases hKey
    · exact hSubject (hSame.symm.trans hKey)
  refine ⟨(Step.entry_frame hOther).trans hHandles, ?_⟩
  intro operation
  exact (Step.slot_frame hOther operation).trans (hTargets operation)

/-- What a registry remembers after any run: its table is sound, what the table decides is decided
for good, registering goes by the name and the table alone, and everything that is done concerns
one name. -/
theorem run_remembers (r : Registry ω) (host : Host ω) (as : List (Action ω)) :
    Sound r as (run r as (start host)) ∧
    Permanent r (run r as (start host)) ∧
    (∀ name source, Registering r (run r as (start host)) name source) ∧
    ∀ (a : Action ω) (key : Text), a.subject ≠ some key →
      (a.after r (run r as (start host))).handles.get? key =
        (run r as (start host)).handles.get? key ∧
      ∀ operation, (a.after r (run r as (start host))).targets.get? (key, operation) =
        (run r as (start host)).targets.get? (key, operation) := by
  have hSound := sound_run r host as
  refine ⟨hSound, permanent r _, registering r _, ?_⟩
  intro a key hSubject
  exact action_frame hSound hSubject

/-- A name that was looked for once, in vain, and is registered later. -/
example (handler : Handler Unit) :
    let r : Registry Unit := { environment := ⟨fun name => .missing name⟩ }
    let s := run r [.resolve ['D', 'o'], .isKnown ['d', 'O'],
      .register ['D', 'O'] (.ofHandler handler)] (start ⟨(), [], [], 0⟩)
    s.handles.get? ['d', 'o'] = some (some ⟨['d', 'o'], registeredModule, handler, 0⟩) ∧
      s.probes = [moduleNameIn bundledPackage ['d', 'o']] := ⟨rfl, rfl⟩

end CommandMarkup.Registry
