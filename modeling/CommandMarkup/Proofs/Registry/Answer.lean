import CommandMarkup.Proofs.Registry.Bundled
import CommandMarkup.Proofs.Registry.Target

/-! What a name comes to, met or not. A registry remembers entries and binds targets as it goes, but
none of that shows: what a name comes to is what the first look at it would have come to. A property
of the answer that holds at one time (`Settled`) holds as long as the name is not registered and the
handles that are passed are own ones.

Main statement: `settled_run`. -/
namespace CommandMarkup.Registry

variable {ω : Type}

/-- The handlers that the operations of a command are done by. -/
abbrev Phases (ω : Type) := Operation → Handler ω

/-- What a name comes to: handlers, if it resolves to a handle, or what breaks the search. -/
abbrev Answer (ω : Type) := Except Fault (Option (Phases ω))

/-- The handlers that the operations of a handle are done by in a state. -/
def phases (s : State ω) (handle : Handle ω) : Phases ω := fun operation =>
  boundHandler handle operation s

/-- What the handlers are when a name comes to such an entry. -/
def answerOf (s : State ω) (result : Except Fault (Option (Handle ω))) : Answer ω :=
  result.map (Option.map (phases s))

/-- What a name comes to when it is resolved. -/
def answer (r : Registry ω) (name : Text) (s : State ω) : Answer ω :=
  answerOf (r.resolve name s).state (r.resolve name s).result

/-- The answer for a key has the property: for its entry if there is one, and if not for whatever
building comes to, on whatever host. -/
def Settled (A : Answer ω → Prop) (r : Registry ω) (key : Text) (s : State ω) : Prop :=
  match s.handles.get? key with
  | some entry => A (answerOf s (.ok entry))
  | none => ∀ host, A (answerOf s (r.build key host).result)

section Settling

variable {A : Answer ω → Prop} {r : Registry ω} {key : Text} {s t : State ω}

theorem settled_known {entry : Option (Handle ω)} (h : s.handles.get? key = some entry) :
    Settled A r key s ↔ A (answerOf s (.ok entry)) := by
  rw [Settled, h]

theorem settled_unmet (h : s.handles.get? key = none) :
    Settled A r key s ↔ ∀ host, A (answerOf s (r.build key host).result) := by
  rw [Settled, h]

/-- Which handlers do the operations depends on the targets alone. -/
theorem answerOf_congr (h : s.targets = t.targets) (result : Except Fault (Option (Handle ω))) :
    answerOf s result = answerOf t result := by
  have hPhases : phases s = phases t := by
    funext handle operation
    rw [phases, phases, boundHandler, boundHandler, h]
  rw [answerOf, answerOf, hPhases]

/-- A state in which the key has the same entry and the same handlers. -/
theorem settled_congr (hEntry : t.handles.get? key = s.handles.get? key)
    (hNamed : ∀ handle, s.handles.get? key = some (some handle) → handle.name = key)
    (hPhases : ∀ handle, handle.name = key →
      (s.handles.get? key = none ∨ s.handles.get? key = some (some handle)) →
      phases t handle = phases s handle)
    (h : Settled A r key s) : Settled A r key t := by
  cases hGet : s.handles.get? key with
  | some entry =>
      rw [hGet] at hEntry
      rw [settled_known hGet] at h
      rw [settled_known hEntry]
      cases entry with
      | none => exact h
      | some handle =>
          have hSame := hPhases handle (hNamed handle hGet) (.inr hGet)
          rwa [answerOf, Except.map, Option.map, hSame]
  | none =>
      rw [hGet] at hEntry
      rw [settled_unmet hGet] at h
      rw [settled_unmet hEntry]
      intro host
      have hHost := h host
      cases hBuild : r.build key host with
      | mk result after =>
          rw [hBuild] at hHost
          cases result with
          | error fault => exact hHost
          | ok entry =>
              cases entry with
              | none => exact hHost
              | some handle =>
                  have hSame := hPhases handle (build_ok hBuild).2.1 (.inl hGet)
                  rwa [answerOf, Except.map, Option.map, hSame]

/-- The answer for a key depends on nothing but its entry and the targets. -/
theorem settled_same (hHandles : t.handles.get? key = s.handles.get? key)
    (hTargets : t.targets = s.targets) (h : Settled A r key s) : Settled A r key t := by
  rw [Settled, hHandles]
  simp only [answerOf_congr hTargets]
  exact h

/-- What a name comes to has the property that is settled for its key. -/
theorem settled_answer {name : Text} (h : Settled A r (Text.lower name) s) :
    A (answer r name s) := by
  rw [answer]
  rcases resolve_cases r name s with ⟨entry, hKnown, hResolve⟩ |
    ⟨hNew, entry, host, hBuild, hResolve⟩ | ⟨hNew, fault, host, hBuild, hResolve⟩
  · rw [settled_known hKnown] at h
    rw [hResolve]
    exact h
  · rw [settled_unmet hNew] at h
    have hHost := h s.toHost
    rw [hBuild] at hHost
    rw [hResolve]
    exact hHost
  · rw [settled_unmet hNew] at h
    have hHost := h s.toHost
    rw [hBuild] at hHost
    rw [hResolve]
    exact hHost

/-- A step keeps what is settled for a key, unless it registers a handle under it or binds a target
for a handle that is not in the table. -/
theorem settled_after {as : List (Action ω)} (hSound : Sound r as s) {x : Step ω}
    (hRegister : ∀ name source, x = .register name source → Text.lower name = key →
      ∀ handle, (r.register name source s).result ≠ .ok handle)
    (hBind : ∀ handle operation, x = .bind handle operation →
      s.handles.get? handle.name = some (some handle))
    (h : Settled A r key s) : Settled A r key (x.after r s) := by
  cases Step.effect r x s with
  | still world hAfter => exact settled_same (by rw [hAfter]) (by rw [hAfter]) h
  | noted event _ hAfter =>
      exact settled_same (by rw [hAfter, State.note]) (by rw [hAfter, State.note]) h
  | broken name fault host _ _ _ hAfter => exact settled_same (by rw [hAfter]) (by rw [hAfter]) h
  | settled name entry host hStep hNew hBuild hAfter =>
      have hTargets : (x.after r s).targets = s.targets := by rw [hAfter, State.remember]
      by_cases hKey : key = Text.lower name
      · subst hKey
        rw [settled_unmet hNew] at h
        have hHost := h s.toHost
        rw [hBuild] at hHost
        have hGet : (x.after r s).handles.get? (Text.lower name) = some entry := by
          rw [hAfter, State.remember, Table.get?_put_self]
        rw [settled_known hGet, answerOf_congr hTargets]
        exact hHost
      · apply settled_same _ hTargets h
        rw [hAfter, State.remember, Table.get?_put_of_ne _ hKey]
  | registered name source handler world hStep _ _ _ hResult hAfter =>
      by_cases hKey : key = Text.lower name
      · exact absurd hResult (hRegister name source hStep hKey.symm _)
      · apply settled_same _ _ h
        · rw [hAfter, State.note, State.remember, Table.get?_put_of_ne _ hKey]
        · rw [hAfter, State.note, State.remember]
  | bound asked bound hStep hNew hAfter =>
      apply settled_congr _ (fun handle hHandle => (hSound.name key handle hHandle).1) _ h
      · rw [hAfter, State.note]
      · intro handle hName hEntry
        funext operation
        by_cases hSlot : (handle.name, operation) = (asked.name, bound)
        · -- The handle that is bound is the one in the table, so nothing changes hands.
          obtain ⟨hAsked, rfl⟩ := Prod.mk.inj hSlot
          have hHeld := hBind asked operation hStep
          rw [← hAsked, hName] at hHeld
          rcases hEntry with hNone | hSome
          · cases hNone.symm.trans hHeld
          · cases hSome.symm.trans hHeld
            rw [phases, phases, boundHandler, boundHandler, hNew, hAfter, State.note,
              Table.get?_put_self]
        · rw [phases, phases, boundHandler, boundHandler, hAfter, State.note,
            Table.get?_put_of_ne _ hSlot]

/-- An action that registers nothing keeps the table of handles sound, whether the run lists it or
not. -/
theorem sound_action {as : List (Action ω)} (hSound : Sound r as s) {a : Action ω}
    (hRegister : ∀ name source, a ≠ .register name source) : Sound r as (a.after r s) := by
  rw [← afterAll_steps]
  apply afterAll_keeps _ hSound
  intro x hx u hu
  apply sound_after _ hu
  intro name source hStep
  subst hStep
  cases Action.part_of_mem_steps hx with
  | register hAction => exact absurd hAction (hRegister name source)

theorem settled_afterAll {as : List (Action ω)} {xs : List (Step ω)} (hSound : Sound r as s)
    (hRegister : ∀ name source, Step.register name source ∉ xs)
    (hBind : ∀ handle operation, Step.bind handle operation ∈ xs →
      s.handles.get? handle.name = some (some handle))
    (h : Settled A r key s) : Settled A r key (Step.afterAll r xs s) := by
  -- The handles that are bound stay in the table on the way.
  let P : State ω → Prop := fun t => Sound r as t ∧ Settled A r key t ∧
    ∀ handle operation, Step.bind handle operation ∈ xs →
      t.handles.get? handle.name = some (some handle)
  have hStep : ∀ x ∈ xs, ∀ t, P t → P (x.after r t) := by
    intro x hx t ht
    obtain ⟨hSoundNow, hSettled, hHeld⟩ := ht
    have hNoRegister : ∀ name source, x ≠ .register name source := by
      intro name source hEq
      exact hRegister name source (hEq ▸ hx)
    refine ⟨sound_after (fun name source hEq => absurd hEq (hNoRegister name source)) hSoundNow,
      settled_after hSoundNow (fun name source hEq => absurd hEq (hNoRegister name source)) ?_
        hSettled, ?_⟩
    · intro handle operation hEq
      exact hHeld handle operation (hEq ▸ hx)
    · intro handle operation hMem
      exact Step.handle_after (hHeld handle operation hMem) r x
  have hAll : P (Step.afterAll r xs s) := afterAll_keeps hStep ⟨hSound, h, hBind⟩
  exact hAll.2.1

/-- What is settled once the name is resolved stays settled to the end of an action that begins
so. -/
theorem settled_found {as : List (Action ω)} (hSound : Sound r as s) {a : Action ω} {name : Text}
    {rest : List (Step ω)} (hSteps : a.steps r s = .resolve name :: rest)
    (hPassed : ∀ handle, a.passed = some handle →
      s.handles.get? handle.name = some (some handle))
    (h : Settled A r key (r.resolve name s).state) : Settled A r key (a.after r s) := by
  have hSoundNext : Sound r as (r.resolve name s).state :=
    sound_after (x := .resolve name) nofun hSound
  have hPart : ∀ x ∈ rest, Action.Part r a s x := by
    intro x hx
    apply Action.part_of_mem_steps
    rw [hSteps]
    exact List.mem_cons_of_mem _ hx
  rw [← afterAll_steps, hSteps, afterAll_cons]
  apply settled_afterAll hSoundNext _ _ h
  · intro other source hMem
    cases hPart _ hMem with
    | register hAction =>
        rw [hAction] at hSteps
        cases hSteps
  · intro handle operation hMem
    cases hPart _ hMem with
    | passed hHandle _ => exact Step.handle_after (hPassed handle hHandle) r (.resolve name)
    | found _ hFound hFoundSteps =>
        rw [hSteps] at hFoundSteps
        cases hFoundSteps
        exact (resolve_named hSound hFound).2

/-- An action that is passed no foreign handle and does not give the key a handle keeps what is
settled. -/
theorem settled_action {as : List (Action ω)} (hSound : Sound r as s) {a : Action ω}
    (hPassed : ∀ handle, a.passed = some handle →
      s.handles.get? handle.name = some (some handle))
    (hRegister : ∀ name source, a = .register name source → Text.lower name = key →
      ∀ handle, (r.register name source s).result ≠ .ok handle)
    (h : Settled A r key s) : Settled A r key (a.after r s) := by
  by_cases hRegisters : ∃ name source, a = .register name source
  · obtain ⟨name, source, rfl⟩ := hRegisters
    apply settled_after hSound (x := .register name source) _ nofun h
    intro other given hStep
    cases hStep
    exact hRegister name source rfl
  by_cases hResolves : ∃ name rest, a.steps r s = .resolve name :: rest
  · obtain ⟨name, rest, hSteps⟩ := hResolves
    have hResolved := settled_after (x := .resolve name) hSound nofun nofun h
    exact settled_found hSound hSteps hPassed hResolved
  · -- What an action binds without resolving a name, it was passed.
    rw [← afterAll_steps]
    apply settled_afterAll hSound _ _ h
    · intro name source hMem
      cases Action.part_of_mem_steps hMem with
      | register hAction => exact hRegisters ⟨name, source, hAction⟩
    · intro handle operation hMem
      cases Action.part_of_mem_steps hMem with
      | passed hHandle _ => exact hPassed handle hHandle
      | found _ _ hSteps => exact absurd ⟨_, _, hSteps⟩ hResolves

/-- A name that has been resolved answers for good as it did then. -/
theorem settled_resolved {name : Text} {entry : Option (Handle ω)}
    (h : (r.resolve name s).result = .ok entry) :
    Settled (fun given => given = answer r name s) r (Text.lower name)
      (r.resolve name s).state := by
  rw [settled_known (resolve_held h), answer, h]

end Settling

/-- No registration in the run gives the key a handle. -/
def Unregistered (r : Registry ω) (key : Text) (as : List (Action ω)) (s : State ω) : Prop :=
  ∀ before name source after, as = before ++ .register name source :: after →
    Text.lower name = key → ∀ handle, (r.register name source (run r before s)).result ≠ .ok handle

theorem Unregistered.of_append {r : Registry ω} {key : Text} {as bs : List (Action ω)} {s : State ω}
    (h : Unregistered r key (as ++ bs) s) : Unregistered r key as s := by
  intro before name source after hSplit
  apply h before name source (after ++ bs)
  rw [hSplit, List.append_assoc, List.cons_append]

theorem Unregistered.of_not_mem {r : Registry ω} {key : Text} {as : List (Action ω)} {s : State ω}
    (h : ∀ name source, Action.register name source ∉ as) : Unregistered r key as s := by
  intro before name source after hSplit
  apply absurd _ (h name source)
  rw [hSplit]
  exact List.mem_append_right _ List.mem_cons_self

/-- What is settled for a key at some time of a run that passes own handles stays settled, unless
the key is registered. -/
theorem settled_run {A : Answer ω → Prop} {r : Registry ω} {key : Text} {host : Host ω}
    {as later : List (Action ω)} (hOwn : PassesOwn r (as ++ later) (start host))
    (hUnregistered : Unregistered r key later (run r as (start host)))
    (h : Settled A r key (run r as (start host))) :
    Settled A r key (run r (as ++ later) (start host)) := by
  induction later using List.reverseRecOn with
  | nil => rwa [List.append_nil]
  | append_singleton later a ih =>
      rw [← List.append_assoc] at hOwn ⊢
      rw [run_append]
      apply settled_action (sound_run r host (as ++ later)) _ _
        (ih hOwn.of_append hUnregistered.of_append)
      · intro handle hPassed
        exact obtained_held (hOwn (as ++ later) a [] handle rfl hPassed)
      · intro name source hAction
        subst hAction
        rw [run_append]
        exact hUnregistered later name source [] rfl

/-- At the start every name is unmet and nothing is bound. -/
theorem settled_start {A : Answer ω → Prop} {r : Registry ω} {key : Text}
    (h : ∀ host, A ((r.build key host).result.map
      (Option.map fun handle _ => handle.handler))) (host : Host ω) :
    Settled A r key (start host) := h

end CommandMarkup.Registry
