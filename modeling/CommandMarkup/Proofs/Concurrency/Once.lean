import CommandMarkup.Proofs.Concurrency.Linear
import CommandMarkup.Proofs.Registry.Target

/-! What calls at the same time make only once. A handler is loaded only for a key that is not in
the table, by the call with the lock, and the key is in the table before the lock is given back; a
target is bound only where there is none.

Main statements: `loaded_once`, `bound_once`. -/
namespace CommandMarkup

namespace Event

/-- Whether the event is that a handler is loaded for the name. -/
def loads (name : Text) : Event → Bool
  | loaded command _ => command = name
  | _ => false

/-- Whether the event is that the operation under the name is bound. -/
def binds (name : Text) (operation : Operation) : Event → Bool
  | bound command text => command = name ∧ text = operation.toText
  | _ => false

theorem makes_of_loads {name : Text} {event : Event} (h : event.loads name = true) :
    event.makes = true := by
  cases event with
  | loaded command moduleName => rfl
  | _ => cases h

theorem makes_of_binds {name : Text} {operation : Operation} {event : Event}
    (h : event.binds name operation = true) : event.makes = true := by
  cases event with
  | bound command text => rfl
  | _ => cases h

/-- Events of making are counted by what is added of them. -/
theorem countP_of_filter_makes {p : Event → Bool}
    (hMakes : ∀ event, p event = true → event.makes = true) {before after made : List Event}
    (h : after.filter makes = before.filter makes ++ made) :
    after.countP p = before.countP p + made.countP p := by
  rw [← countP_filter hMakes after, h, List.countP_append, countP_filter hMakes]

end Event

namespace Registry

variable {ω ι : Type} {r : Registry ω}

/-- What the step of a call notes to be made. -/
inductive Turn.Makes (r : Registry ω) (t t' : Turn ι ω) : List Event → Prop where
  | nothing : Makes r t t' []
  | handler {key : Text} (moduleName : Text) (hStage : t.stage = .building key)
      (hNext : r.NeverRaises → ∃ handle, t'.stage = .writing (.entry key (some handle))) :
      Makes r t t' [.loaded key moduleName]
  | target {name : Text} {made : Target ω} (hStage : t.stage = .writing (.target name made)) :
      Makes r t t' [.bound name made.operation.toText]

/-- The first step of a call notes nothing. A class that is registered is constructed then, but that
is not in the log. -/
theorem log_begin (r : Registry ω) (request : Request ω) (s : State ω) :
    (request.begin r s).1.log = s.log := by
  cases request with
  | resolve name => rfl
  | dispatchTarget handle text => rfl
  | register name source =>
      rw [Request.begin]
      split
      case isFalse => rfl
      case isTrue =>
        have hState := obtain_state source r.settings s
        cases hObtain : source.obtain r.settings s with
        | mk result after =>
            rw [hObtain] at hState
            cases result with
            | ok handler => exact congrArg (fun state => state.log) hState
            | error fault => exact congrArg (fun state => state.log) hState

/-- What is noted to be made in a step is a handler that is loaded with the lock, or a target that
is put into its table, or nothing. -/
theorem makes_next (r : Registry ω) (i : ι) (request : Request ω) (t : Turn ι ω) :
    ∃ made, Turn.Makes r t (t.next r i request) made ∧
      (t.next r i request).state.log.filter Event.makes =
        t.state.log.filter Event.makes ++ made := by
  have hSame : (t.next r i request).state.log.filter Event.makes =
      t.state.log.filter Event.makes → ∃ made, Turn.Makes r t (t.next r i request) made ∧
        (t.next r i request).state.log.filter Event.makes =
          t.state.log.filter Event.makes ++ made :=
    fun hLog => ⟨[], .nothing, hLog.trans (List.append_nil _).symm⟩
  obtain ⟨s, lock, stage⟩ := t
  cases stage with
  | called => exact hSame (by rw [Turn.next, log_begin])
  | waiting task => cases lock <;> exact hSame rfl
  | fetching key =>
      refine hSame ?_
      rw [Turn.next]
      split <;> rfl
  | refetching key =>
      refine hSame ?_
      rw [Turn.next]
      split <;> rfl
  | building key =>
      have hMakes := build_makes r key s.toHost
      cases hBuild : r.build key s.toHost with
      | mk result host =>
          rw [hBuild] at hMakes
          rcases hMakes with hLog | ⟨moduleName, hLog, hNext⟩
          · refine hSame ?_
            rw [Turn.next, State.onHost, hBuild]
            cases result <;> exact hLog
          · refine ⟨_, .handler moduleName rfl fun hNever => ?_, ?_⟩
            · obtain ⟨handle, hResult⟩ := hNext hNever
              cases hResult
              rw [Turn.next, State.onHost, hBuild]
              exact ⟨handle, rfl⟩
            · rw [Turn.next, State.onHost, hBuild]
              cases result <;> exact hLog
  | writing write =>
      cases write with
      | entry key held => exact hSame rfl
      | registered handle => exact hSame rfl
      | target name made => exact ⟨_, .target rfl, List.filter_append _ _⟩
  | leaving result =>
      cases result with
      | error fault => exact hSame rfl
      | ok reply => cases reply <;> exact hSame rfl
  | announcing handle => exact hSame ((List.filter_append _ _).trans (List.append_nil _))
  | entered task => exact hSame rfl
  | creating key handler => exact hSame rfl
  | binding handle operation => exact hSame rfl
  | answered result => exact hSame rfl
  | lost => exact hSame rfl

variable [DecidableEq ι] {request : ι → Request ω}

/-- What no step does again once it is done is done at most once. -/
theorem interleave_once {p : Event → Bool} {Done : Machine ι ω → Prop}
    (hStep : ∀ m, Consistent r request m → ∀ i,
      ((advance r request i m).state.log.countP p = m.state.log.countP p ∧
        (Done m → Done (advance r request i m))) ∨
      (¬ Done m ∧ Done (advance r request i m) ∧
        (advance r request i m).state.log.countP p = m.state.log.countP p + 1))
    (schedule : List ι) {m : Machine ι ω} (h : Consistent r request m) :
    (Done m → (interleave r request schedule m).state.log.countP p = m.state.log.countP p) ∧
      (interleave r request schedule m).state.log.countP p ≤ m.state.log.countP p + 1 := by
  induction schedule generalizing m with
  | nil => exact ⟨fun _ => rfl, Nat.le_succ _⟩
  | cons i schedule ih =>
      obtain ⟨hSame, hOnce⟩ := ih (consistent_advance h i)
      rcases hStep m h i with ⟨hCount, hKeeps⟩ | ⟨hNot, hDone, hCount⟩
      · rw [hCount] at hSame hOnce
        exact ⟨fun hDone => hSame (hKeeps hDone), hOnce⟩
      · exact ⟨fun hDone => absurd hDone hNot, ((hSame hDone).trans hCount).le⟩

/-- The name is in the table, or a handle for it is going to be. -/
def Machine.Loaded (name : Text) (m : Machine ι ω) : Prop :=
  m.state.handles.get? name ≠ none ∨
    ∃ i handle, m.stage i = .writing (.entry name (some handle))

/-- A name that is in the table stays there, and so does a handle that is about to be put in: only
its own call can take the next step with the lock. -/
theorem loaded_keeps {m : Machine ι ω} (h : Consistent r request m) (i : ι) (name : Text)
    (hLoaded : m.Loaded name) : (advance r request i m).Loaded name := by
  rcases hLoaded with hKnown | ⟨j, handle, hStage⟩
  · exact .inl ((h.turn i).move.keeps.known name hKnown)
  · by_cases hCall : j = i
    · subst hCall
      left
      have hPut : (advance r request j m).state =
          (Write.entry name (some handle)).put m.state := by
        simp only [advance, Machine.turn, hStage, Turn.next]
      rw [hPut, Write.put, State.remember, Table.get?_put_self]
      exact Option.some_ne_none _
    · exact .inr ⟨j, handle, by rw [stage_advance_of_ne hCall, hStage]⟩

omit [DecidableEq ι] in
/-- A name is built only when there is nothing of it yet. -/
theorem not_loaded_of_building {m : Machine ι ω} (h : Consistent r request m) {i : ι} {name : Text}
    (hStage : m.stage i = .building name) : ¬ m.Loaded name := by
  have hFits := h.fits i
  have hLock : m.lock = some i := (h.holder i).mp (by rw [hStage]; rfl)
  rw [hStage] at hFits
  rintro (hKnown | ⟨j, handle, hWriting⟩)
  · exact hKnown hFits.2
  · have hOther : m.lock = some j := (h.holder j).mp (by rw [hWriting]; rfl)
    rw [hLock] at hOther
    cases hOther
    rw [hStage] at hWriting
    cases hWriting

/-- Where no class fails, a handler is loaded at most once for each name, and not for a name that is
in the table. -/
theorem loaded_once (hNever : r.NeverRaises) (name : Text) (schedule : List ι) {m : Machine ι ω}
    (h : Consistent r request m) :
    (m.Loaded name → (interleave r request schedule m).state.log.countP (Event.loads name) =
      m.state.log.countP (Event.loads name)) ∧
    (interleave r request schedule m).state.log.countP (Event.loads name) ≤
      m.state.log.countP (Event.loads name) + 1 := by
  refine interleave_once (fun m h i => ?_) schedule h
  have hKeeps := loaded_keeps h i name
  obtain ⟨made, hMade, hLog⟩ := makes_next r i (request i) (m.turn i)
  have hCount : (advance r request i m).state.log.countP (Event.loads name) =
      m.state.log.countP (Event.loads name) + made.countP (Event.loads name) :=
    Event.countP_of_filter_makes (fun _ => Event.makes_of_loads) hLog
  cases hMade with
  | nothing => exact .inl ⟨hCount, hKeeps⟩
  | target hStage => exact .inl ⟨hCount, hKeeps⟩
  | @handler key moduleName hStage hNext =>
      by_cases hName : key = name
      · subst hName
        obtain ⟨handle, hWriting⟩ := hNext hNever
        rw [← turn_advance] at hWriting
        refine .inr ⟨not_loaded_of_building h hStage, .inr ⟨i, handle, hWriting⟩, ?_⟩
        rw [hCount]
        simp [Event.loads]
      · refine .inl ⟨?_, hKeeps⟩
        rw [hCount]
        simp [Event.loads, hName]

/-- The operation under the name has a target. -/
def Machine.Bound (name : Text) (operation : Operation) (m : Machine ι ω) : Prop :=
  m.state.targets.get? (name, operation) ≠ none

/-- A target is bound at most once for each name and operation, and not where there is one. -/
theorem bound_once (name : Text) (operation : Operation) (schedule : List ι) {m : Machine ι ω}
    (h : Consistent r request m) :
    (m.Bound name operation →
      (interleave r request schedule m).state.log.countP (Event.binds name operation) =
        m.state.log.countP (Event.binds name operation)) ∧
    (interleave r request schedule m).state.log.countP (Event.binds name operation) ≤
      m.state.log.countP (Event.binds name operation) + 1 := by
  refine interleave_once (fun m h i => ?_) schedule h
  have hKeeps : m.Bound name operation → (advance r request i m).Bound name operation :=
    (h.turn i).move.keeps.bound (name, operation)
  obtain ⟨made, hMade, hLog⟩ := makes_next r i (request i) (m.turn i)
  have hCount : (advance r request i m).state.log.countP (Event.binds name operation) =
      m.state.log.countP (Event.binds name operation) + made.countP (Event.binds name operation) :=
    Event.countP_of_filter_makes (fun _ => Event.makes_of_binds) hLog
  cases hMade with
  | nothing => exact .inl ⟨hCount, hKeeps⟩
  | handler moduleName hStage hNext => exact .inl ⟨hCount, hKeeps⟩
  | @target other made hStage =>
      by_cases hSlot : other = name ∧ made.operation = operation
      · obtain ⟨rfl, rfl⟩ := hSlot
        have hStage : m.stage i = .writing (.target other made) := hStage
        have hFits := h.fits i
        rw [hStage] at hFits
        have hPut : (advance r request i m).state = (Write.target other made).put m.state := by
          simp only [advance, Machine.turn, hStage, Turn.next]
        refine .inr ⟨not_not.mpr hFits.1, ?_, ?_⟩
        · rw [Machine.Bound, hPut, Write.put, State.note, Table.get?_put_self]
          exact Option.some_ne_none _
        · rw [hCount]
          simp [Event.binds]
      · refine .inl ⟨?_, hKeeps⟩
        have hText : ¬ (other = name ∧ made.operation.toText = operation.toText) :=
          fun hBoth => hSlot ⟨hBoth.1, toText_injective hBoth.2⟩
        rw [hCount, List.countP_singleton, Event.binds, decide_eq_false hText]
        rfl

end Registry

end CommandMarkup
