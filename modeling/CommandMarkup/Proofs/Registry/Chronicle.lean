import CommandMarkup.Proofs.Registry.Blocking

/-! The log beside the tables. Each entry and each target leaves one record when it comes in, and
what is remembered leaves no other, so at every point of a run the log tells what is in the tables.

Main statement: `run_chronicles`. -/
namespace CommandMarkup

namespace Event

/-- Whether the event tells what a name came to. -/
def tells (name : Text) : Event → Bool
  | registered command _ => command = name
  | loaded command _ => command = name
  | notFound command => command = name
  | loadFailed command _ _ => command = name
  | _ => false

/-- Whether the event is that a name gets a handle. -/
def provides (name : Text) : Event → Bool
  | registered command _ => command = name
  | loaded command _ => command = name
  | _ => false

/-- Whether the event is that the module of a name cannot be loaded. -/
def fails (name : Text) : Event → Bool
  | loadFailed command _ _ => command = name
  | _ => false

/-- Whether the event tells of no name and no target. -/
def aside : Event → Bool
  | packageMissing _ => true
  | rejectedCall _ _ => true
  | reported _ _ => true
  | _ => false

/-- Whether it is a registry that writes such events. Calls that are rejected and errors that are
reported are written where commands are recognized and rendered. -/
def ofRegistry : Event → Bool
  | rejectedCall _ _ => false
  | reported _ _ => false
  | _ => true

theorem tells_of_provides {name : Text} {event : Event} (h : event.provides name = true) :
    event.tells name = true := by
  cases event with
  | registered command className => exact h
  | loaded command moduleName => exact h
  | _ => cases h

theorem tells_of_fails {name : Text} {event : Event} (h : event.fails name = true) :
    event.tells name = true := by
  cases event with
  | loadFailed command moduleName reason => exact h
  | _ => cases h

theorem tells_notFound (name : Text) : (notFound name).tells name = true := decide_eq_true rfl

end Event

namespace Registry

variable {ω : Type} {r : Registry ω} {s : State ω} {x : Step ω} {name : Text}
  {entry : Option (Option (Handle ω))} {events more written : List Event}

/-- What is written of a name when its entry is that one, or there is none. -/
inductive Account (name : Text) : Option (Option (Handle ω)) → List Event → Prop where
  | unmet : Account name none []
  | told {entry : Option (Handle ω)} {events : List Event} (h : Told name entry events) :
      Account name (some entry) events
  | registered (handle : Handle ω) (className : Text) :
      Account name (some (some handle)) [.registered name className]
  | supplied {events : List Event} (handle : Handle ω) (className : Text)
      (h : Told name (none : Option (Handle ω)) events) :
      Account name (some (some handle)) (events ++ [.registered name className])

/-- What the events of a name say of its entry, however it came to it. -/
structure Tally (name : Text) (entry : Option (Option (Handle ω))) (events : List Event) :
    Prop where
  provides_once : events.countP (Event.provides name) ≤ 1
  notFound_once : events.count (.notFound name) ≤ 1
  fails_once : events.countP (Event.fails name) ≤ 1
  notFound_first : events.Pairwise fun earlier later =>
    earlier.provides name = true → later ≠ .notFound name
  handle : (∃ handle, entry = some (some handle)) ↔ ∃ event ∈ events, event.provides name = true
  absent : entry = some none ↔
    .notFound name ∈ events ∧ ∀ event ∈ events, event.provides name = false

/-- What is written of a name when its entry changes. -/
inductive Change (name : Text) :
    Option (Option (Handle ω)) → Option (Handle ω) → List Event → Prop where
  | told {entry : Option (Handle ω)} {events : List Event} (h : Told name entry events) :
      Change name none entry events
  | registered {old : Option (Option (Handle ω))} (handle : Handle ω) (className : Text)
      (hFree : ∀ held, old ≠ some (some held)) :
      Change name old (some handle) [.registered name className]

/-- A module that cannot be loaded leaves its name without a handle, and that is written next. -/
def Followed (events : List Event) : Prop :=
  ∀ before name moduleName reason after,
    events = before ++ .loadFailed name moduleName reason :: after →
    ∃ rest, after = .notFound name :: rest

/-- What the tables and the log have to do with each other: the events of a name account for its
entry, and a target is there when its record is. -/
structure Accounted (s : State ω) (written : List Event) : Prop where
  entry : ∀ name, Account name (s.handles.get? name) (written.filter (Event.tells name))
  target : ∀ name operation, written.count (.bound name operation.toText) =
    if (s.targets.get? (name, operation)).isSome then 1 else 0
  operation : ∀ name text, .bound name text ∈ written →
    ∃ operation : Operation, text = operation.toText
  followed : Followed written

/-- What the log that was written says of the tables. -/
structure Chronicle (s : State ω) (written : List Event) : Prop where
  provides_once : ∀ name, written.countP (Event.provides name) ≤ 1
  notFound_once : ∀ name, written.count (.notFound name) ≤ 1
  notFound_first : ∀ name, written.Pairwise fun earlier later =>
    earlier.provides name = true → later ≠ .notFound name
  fails_once : ∀ name, written.countP (Event.fails name) ≤ 1
  fails_next : Followed written
  bound_once : ∀ name text, written.count (.bound name text) ≤ 1
  handle : ∀ name, (∃ handle, s.handles.get? name = some (some handle)) ↔
    ∃ event ∈ written, event.provides name = true
  absent : ∀ name, s.handles.get? name = some none ↔
    .notFound name ∈ written ∧ ∀ event ∈ written, event.provides name = false
  target : ∀ name operation, (∃ target, s.targets.get? (name, operation) = some target) ↔
    .bound name operation.toText ∈ written

/-- The names that a step looks up have entries, and the pairs have targets. -/
def Step.Meets (s : State ω) : Step ω → Prop
  | resolve name => s.handles.get? (Text.lower name) ≠ none
  | register name _ => s.handles.get? (Text.lower name) ≠ none
  | bind handle operation => s.targets.get? (handle.name, operation) ≠ none
  | work _ => True
  | remark _ => True

/-- The action gives a handle to a name that is remembered to have none. -/
def Action.Supplies (r : Registry ω) (s : State ω) (a : Action ω) : Prop :=
  ∃ name source handle, a = .register name source ∧
    s.handles.get? (Text.lower name) = some none ∧
    (r.register name source s).result = .ok handle

/-- The tables are as before, and the registry has written nothing. -/
def Unchanged (s after : State ω) : Prop :=
  after.toMemory = s.toMemory ∧ Adds (fun event => event.ofRegistry = false) s.log after.log

/-- What the log of a registry tells, at every point of a run and after it. -/
structure Chronicles (r : Registry ω) (host : Host ω) (as : List (Action ω)) : Prop where
  points : ∀ xs, xs <+: trace r as (start host) → ∃ written,
    (Step.afterAll r xs (start host)).log = host.log ++ written ∧
      Chronicle (Step.afterAll r xs (start host)) written
  leads : ∃ written, (run r as (start host)).log = host.log ++ written ∧
    Chronicle (run r as (start host)) written
  /-- In whatever state, what only meets names and pairs that are in the tables leaves them as they
  are, and the registry writes nothing. -/
  quiet : ∀ (s : State ω) (a : Action ω), (∀ x ∈ a.steps r s, x.Meets s) → ¬ a.Supplies r s →
    Unchanged s (a.after r s)
  /-- Registering writes one record, also of a name that was remembered to have none. -/
  registers : ∀ (s : State ω) name source handle, (r.register name source s).result = .ok handle →
    (r.register name source s).state.log =
      s.log ++ [.registered (Text.lower name) handle.handler.className]

/-- However a name came to its entry, its events occur at most once each and say what the entry
is. -/
theorem Account.tally (h : Account name entry events) : Tally name entry events := by
  cases h with
  | unmet => constructor <;> simp
  | told h => cases h <;> constructor <;> simp [Event.provides, Event.fails]
  | registered => constructor <;> simp [Event.provides, Event.fails]
  | supplied _ _ h => cases h <;> constructor <;> simp [Event.provides, Event.fails]

/-- An account goes on with what is written when the entry changes. -/
theorem Account.change {new : Option (Handle ω)} (h : Account name entry events)
    (hChange : Change name entry new more) : Account name (some new) (events ++ more) := by
  cases hChange with
  | told hTold =>
      cases h
      exact .told hTold
  | registered handle className hFree =>
      cases h with
      | unmet => exact .registered handle className
      | @told held _ hTold =>
          cases held with
          | none => exact .supplied handle className hTold
          | some held => exact absurd rfl (hFree held)
      | registered held _ => exact absurd rfl (hFree held)
      | supplied held _ _ => exact absurd rfl (hFree held)

theorem Told.filter_tells {entry : Option (Handle ω)} (h : Told name entry events) (other : Text) :
    events.filter (Event.tells other) = if name = other then events else [] := by
  by_cases hName : name = other
  · cases h <;> simp [Event.tells, hName]
  · cases h <;> simp [Event.tells, hName]

/-- The events of a change are about its name and no other. -/
theorem Change.filter_tells {new : Option (Handle ω)} (h : Change name entry new events)
    (other : Text) :
    events.filter (Event.tells other) = if name = other then events else [] := by
  cases h with
  | told h => exact h.filter_tells other
  | registered handle className =>
      by_cases hName : name = other <;> simp [Event.tells, hName]

theorem Change.not_bound {new : Option (Handle ω)} (h : Change name entry new events)
    (other text : Text) : .bound other text ∉ events := by
  cases h with
  | told h => cases h <;> simp
  | registered => simp

theorem followed_of_none (h : ∀ event ∈ events, ∀ name, event.fails name = false) :
    Followed events := by
  rintro before name moduleName reason after rfl
  have hNot := h _ (List.mem_append_right _ List.mem_cons_self) name
  exact absurd (decide_eq_true (rfl : name = name)) (Bool.eq_false_iff.mp hNot)

/-- Two logs in which each failure to load is followed up can be put together. -/
theorem Followed.append (h : Followed events) (hMore : Followed more) :
    Followed (events ++ more) := by
  intro before name moduleName reason after hSplit
  rcases List.append_eq_append_iff.mp hSplit with ⟨rest, hBefore, hRest⟩ | ⟨rest, hEvents, hAfter⟩
  · exact hMore rest name moduleName reason after hRest
  · cases rest with
    | nil =>
        exact hMore [] name moduleName reason after hAfter.symm
    | cons first rest =>
        cases hAfter
        obtain ⟨last, rfl⟩ := h before name moduleName reason rest hEvents
        exact ⟨last ++ more, rfl⟩

theorem Told.followed {entry : Option (Handle ω)} (h : Told name entry events) :
    Followed events := by
  cases h with
  | notFound => exact followed_of_none (by simp [Event.fails])
  | loaded handle => exact followed_of_none (by simp [Event.fails])
  | loadFailed moduleName reason =>
      intro before command source why after hSplit
      cases before with
      | nil =>
          cases hSplit
          exact ⟨[], rfl⟩
      | cons first before =>
          have hLast : Event.loadFailed command source why ∈ [Event.notFound name] := by
            rw [(List.cons.inj hSplit).2]
            exact List.mem_append_right _ List.mem_cons_self
          cases List.mem_singleton.mp hLast

/-- A change that records a failure to load records right after it that there is no handle. -/
theorem Change.followed {new : Option (Handle ω)} (h : Change name entry new events) :
    Followed events := by
  cases h with
  | told h => exact h.followed
  | registered => exact followed_of_none (by simp [Event.fails])

/-- What a step can write, with the change of the tables that it records. -/
inductive Wrote (r : Registry ω) (x : Step ω) (s : State ω) : Prop where
  | aside (events : List Event) (hAside : ∀ event ∈ events, event.aside = true)
      (hLog : (x.after r s).log = s.log ++ events)
      (hMemory : (x.after r s).toMemory = s.toMemory)
  | entry (name : Text) (new : Option (Handle ω)) (warnings events : List Event)
      (hAside : ∀ event ∈ warnings, event.aside = true)
      (hChange : Change name (s.handles.get? name) new events)
      (hLog : (x.after r s).log = s.log ++ (warnings ++ events))
      (hHandles : (x.after r s).handles = s.handles.put name new)
      (hTargets : (x.after r s).targets = s.targets)
  | target (name : Text) (operation : Operation) (made : Target ω)
      (hNew : s.targets.get? (name, operation) = none)
      (hLog : (x.after r s).log = s.log ++ [.bound name operation.toText])
      (hHandles : (x.after r s).handles = s.handles)
      (hTargets : (x.after r s).targets = s.targets.put (name, operation) made)

/-- The warnings of a search are about packages, and tell nothing of a name. -/
theorem aside_of_mem_warnings (r : Registry ω) (packages : List Text) :
    ∀ event ∈ r.warnings packages, event.aside = true := by
  intro event hEvent
  obtain ⟨package, _, hWarning⟩ := List.mem_filterMap.mp hEvent
  split at hWarning
  · cases hWarning
    rfl
  · cases hWarning

theorem aside_of_not_ofRegistry {event : Event} (h : event.ofRegistry = false) :
    event.aside = true := by
  cases event with
  | rejectedCall callText reason => rfl
  | reported command message => rfl
  | _ => cases h

/-- Resolving writes warnings, and with a new entry the events that tell of it. -/
theorem Importing.wrote_resolve (h : r.Importing) (name : Text) (s : State ω) :
    Wrote r (.resolve name) s := by
  cases h.resolution name s with
  | known entry _ hOutcome =>
      refine .aside [] nofun ?_ ?_
      · rw [Step.after, hOutcome, List.append_nil, Outcome.ok]
      · rw [Step.after, hOutcome, Outcome.ok]
  | decided packages entry events world serial hNew hTold hOutcome =>
      refine .entry (Text.lower name) entry (r.warnings packages) events
        (aside_of_mem_warnings r packages) ?_ ?_ ?_ ?_
      · rw [hNew]
        exact .told hTold
      all_goals rw [Step.after, hOutcome, Outcome.ok, settled]
  | blocked reason hBlocked =>
      obtain ⟨before, package, hOutcome⟩ := hBlocked.resolve
      refine .aside (r.warnings before) (aside_of_mem_warnings r before) ?_ ?_
      all_goals rw [Step.after, hOutcome, Outcome.error]

/-- What a step writes goes with what it does to the tables: nothing that matters, one entry, or one
target. -/
theorem Importing.wrote (h : r.Importing)
    (hRemark : ∀ event, x = .remark event → event.ofRegistry = false) : Wrote r x s := by
  cases Step.effect r x s with
  | still world hAfter => exact .aside [] nofun (by rw [hAfter, List.append_nil]) (by rw [hAfter])
  | noted event hStep hAfter =>
      have hAside := aside_of_not_ofRegistry (hRemark event hStep)
      refine .aside [event] (List.forall_mem_singleton.mpr hAside) ?_ ?_
      all_goals rw [hAfter]; rfl
  | broken name _ _ hStep =>
      rw [hStep]
      exact h.wrote_resolve name s
  | settled name _ _ hStep =>
      rw [hStep]
      exact h.wrote_resolve name s
  | registered name source handler world _ _ _ hFree _ hAfter =>
      refine .entry (Text.lower name) _ [] _ nofun
        (.registered (registeredHandle name handler s) handler.className hFree) ?_ ?_ ?_
      all_goals rw [hAfter]; rfl
  | bound handle operation _ hNew hAfter =>
      refine .target handle.name operation ⟨operation, handle.handler, s.nextSerial⟩ hNew ?_ ?_ ?_
      all_goals rw [hAfter]; rfl

theorem filter_tells_aside (h : ∀ event ∈ events, event.aside = true) (name : Text) :
    events.filter (Event.tells name) = [] := by
  rw [List.filter_eq_nil_iff]
  intro event hEvent hTells
  have hAside := h event hEvent
  cases event with
  | packageMissing package => cases hTells
  | rejectedCall callText reason => cases hTells
  | reported command message => cases hTells
  | _ => cases hAside

theorem not_bound_aside (h : ∀ event ∈ events, event.aside = true) (name text : Text) :
    .bound name text ∉ events := by
  intro hMem
  cases h _ hMem

theorem followed_aside (h : ∀ event ∈ events, event.aside = true) : Followed events := by
  apply followed_of_none
  intro event hEvent name
  have hAside := h event hEvent
  cases event with
  | loadFailed command moduleName reason => cases hAside
  | _ => rfl

theorem accounted_start (host : Host ω) : Accounted (start host) [] where
  entry := fun _ => .unmet
  target := fun _ _ => rfl
  operation := nofun
  followed := followed_of_none nofun

/-- What writes no record of a target leaves the records of targets as they are. -/
theorem Accounted.unbound {after : State ω} (h : Accounted s written)
    (hTargets : after.targets = s.targets)
    (hEntry : ∀ name, Account name (after.handles.get? name)
      ((written ++ events).filter (Event.tells name)))
    (hBound : ∀ name text, .bound name text ∉ events) (hFollowed : Followed events) :
    Accounted after (written ++ events) where
  entry := hEntry
  target := by
    intro name operation
    rw [List.count_append, List.count_eq_zero.mpr (hBound name _), hTargets]
    exact h.target name operation
  operation := by
    intro name text hMem
    rcases List.mem_append.mp hMem with hOld | hNew
    · exact h.operation name text hOld
    · exact absurd hNew (hBound name text)
  followed := h.followed.append hFollowed

/-- A step writes what it changes. -/
theorem accounted_after (hWrote : Wrote r x s) (h : Accounted s written) :
    ∃ new, (x.after r s).log = s.log ++ new ∧ Accounted (x.after r s) (written ++ new) := by
  cases hWrote with
  | aside events hAside hLog hMemory =>
      refine ⟨events, hLog, ?_⟩
      have hHandles : (x.after r s).handles = s.handles := congrArg Memory.handles hMemory
      have hTargets : (x.after r s).targets = s.targets := congrArg Memory.targets hMemory
      refine h.unbound hTargets ?_ (not_bound_aside hAside) (followed_aside hAside)
      intro name
      rw [List.filter_append, filter_tells_aside hAside, List.append_nil, hHandles]
      exact h.entry name
  | entry name new warnings events hAside hChange hLog hHandles hTargets =>
      refine ⟨warnings ++ events, hLog, ?_⟩
      refine h.unbound hTargets ?_ ?_ ((followed_aside hAside).append hChange.followed)
      · -- Of the new events, those of the name go on with its account, and no other name has any.
        intro other
        rw [List.filter_append, List.filter_append, filter_tells_aside hAside, List.nil_append,
          hChange.filter_tells, hHandles, Table.get?_put]
        by_cases hName : name = other
        · subst hName
          rw [if_pos rfl, if_pos rfl]
          exact (h.entry name).change hChange
        · rw [if_neg hName, if_neg (Ne.symm hName), List.append_nil]
          exact h.entry other
      · intro other text hMem
        rcases List.mem_append.mp hMem with hWarning | hEvent
        · exact not_bound_aside hAside other text hWarning
        · exact hChange.not_bound other text hEvent
  | target name operation made hNew hLog hHandles hTargets =>
      refine ⟨_, hLog, ?_, ?_, ?_, ?_⟩
      · intro other
        rw [List.filter_append, hHandles]
        exact (List.append_nil _).symm ▸ h.entry other
      · intro other asked
        rw [List.count_append, h.target, hTargets, Table.get?_put]
        by_cases hSlot : (other, asked) = (name, operation)
        · cases hSlot
          rw [hNew, if_pos rfl]
          simp
        · have hOther : Event.bound other asked.toText ∉ [Event.bound name operation.toText] := by
            intro hMem
            obtain ⟨rfl, hText⟩ := Event.bound.inj (List.mem_singleton.mp hMem)
            exact hSlot (by rw [toText_injective hText])
          rw [if_neg hSlot, List.count_eq_zero.mpr hOther, Nat.add_zero]
      · intro other text hMem
        rcases List.mem_append.mp hMem with hOld | hRecord
        · exact h.operation other text hOld
        · cases List.mem_singleton.mp hRecord
          exact ⟨operation, rfl⟩
      · exact h.followed.append (followed_of_none (by simp [Event.fails]))

theorem accounted_afterAll (h : r.Importing) {xs : List (Step ω)}
    (hRemarks : ∀ event, .remark event ∈ xs → event.ofRegistry = false) {earlier : List Event}
    (hStart : ∃ written, s.log = earlier ++ written ∧ Accounted s written) :
    ∃ written, (Step.afterAll r xs s).log = earlier ++ written ∧
      Accounted (Step.afterAll r xs s) written := by
  refine afterAll_keeps (P := fun s => ∃ written, s.log = earlier ++ written ∧ Accounted s written)
    ?_ hStart
  rintro x hx s ⟨written, hLog, hAccounted⟩
  have hWrote : Wrote r x s := h.wrote fun event hEvent => hRemarks event (hEvent ▸ hx)
  obtain ⟨new, hNew, hAfter⟩ := accounted_after hWrote hAccounted
  exact ⟨written ++ new, by rw [hNew, hLog, List.append_assoc], hAfter⟩

theorem ofRegistry_of_mem_asks {name : Text} {operation : Operation}
    {ask : Handle ω → State ω → Outcome (State ω) Value} {event : Event}
    (h : .remark event ∈ asks r name operation ask s) : event.ofRegistry = false := by
  cases asking_of_mem h with
  | report => rfl

/-- What an action says besides the doings of the registry, commands and their handlers say. -/
theorem ofRegistry_of_mem_steps {a : Action ω} {event : Event} (h : .remark event ∈ a.steps r s) :
    event.ofRegistry = false := by
  cases a with
  | register name source => cases List.mem_singleton.mp h
  | resolve name => cases List.mem_singleton.mp h
  | isKnown name => cases List.mem_singleton.mp h
  | dispatchTarget handle operation =>
      rw [Action.steps] at h
      split at h
      · cases List.mem_singleton.mp h
      · cases h
  | prepare handle occurrence => rcases List.mem_pair.mp h with hStep | hStep <;> cases hStep
  | render handle embedding payload document =>
      rcases List.mem_pair.mp h with hStep | hStep <;> cases hStep
  | recognize e command =>
      rw [Action.steps] at h
      split at h
      · cases h
      · split at h
        · cases List.mem_singleton.mp h
          rfl
        · exact ofRegistry_of_mem_asks h
  | renderPrepared e mode p document =>
      rw [Action.steps] at h
      split at h
      · cases h
      · exact ofRegistry_of_mem_asks h

/-- The remarks in a run are those of recognizing and rendering; a registry makes none itself. -/
theorem ofRegistry_of_mem_trace {as : List (Action ω)} {event : Event}
    (h : .remark event ∈ trace r as s) : event.ofRegistry = false := by
  induction as generalizing s with
  | nil => cases h
  | cons a as ih =>
      rw [trace] at h
      rcases List.mem_append.mp h with hAction | hRest
      · exact ofRegistry_of_mem_steps hAction
      · exact ih hRest

/-- A name has a handle if and only if the log tells where it came from. -/
theorem Accounted.handle_iff (h : Accounted s written) (name : Text) :
    (∃ handle, s.handles.get? name = some (some handle)) ↔
      ∃ event ∈ written, event.provides name = true := by
  rw [(h.entry name).tally.handle]
  constructor
  · rintro ⟨event, hEvent, hProvides⟩
    exact ⟨event, (List.mem_filter.mp hEvent).1, hProvides⟩
  · rintro ⟨event, hEvent, hProvides⟩
    exact ⟨event, List.mem_filter.mpr ⟨hEvent, Event.tells_of_provides hProvides⟩, hProvides⟩

/-- A name is remembered without a handle if and only if the log says that it was not found, and
nowhere that it got a handle. -/
theorem Accounted.absent_iff (h : Accounted s written) (name : Text) :
    s.handles.get? name = some none ↔
      .notFound name ∈ written ∧ ∀ event ∈ written, event.provides name = false := by
  rw [(h.entry name).tally.absent, List.mem_filter, and_iff_left (Event.tells_notFound name)]
  refine and_congr_right fun _ => ?_
  constructor
  · intro hAmong event hEvent
    by_contra hProvides
    have hTrue := Bool.eq_true_of_not_eq_false hProvides
    have hTells := Event.tells_of_provides hTrue
    exact hProvides (hAmong event (List.mem_filter.mpr ⟨hEvent, hTells⟩))
  · intro hAll event hEvent
    exact hAll event (List.mem_filter.mp hEvent).1

/-- A target is there if and only if the log says that it was bound. -/
theorem Accounted.target_iff (h : Accounted s written) (name : Text) (operation : Operation) :
    (∃ target, s.targets.get? (name, operation) = some target) ↔
      .bound name operation.toText ∈ written := by
  rw [← Option.isSome_iff_exists, ← List.count_pos_iff, h.target]
  cases (s.targets.get? (name, operation)).isSome <;> simp

/-- No operation is recorded to be bound twice under a name. -/
theorem Accounted.bound_once (h : Accounted s written) (name text : Text) :
    written.count (.bound name text) ≤ 1 := by
  by_cases hMem : .bound name text ∈ written
  · obtain ⟨operation, rfl⟩ := h.operation name text hMem
    rw [h.target]
    split
    · exact Nat.le_refl 1
    · exact Nat.zero_le 1
  · rw [List.count_eq_zero.mpr hMem]
    exact Nat.zero_le 1

/-- That a name was not found is only written before it gets a handle, never after. -/
theorem Accounted.notFound_first (h : Accounted s written) (name : Text) :
    written.Pairwise fun earlier later =>
      earlier.provides name = true → later ≠ .notFound name := by
  have hAmong := List.pairwise_filter.mp (h.entry name).tally.notFound_first
  refine hAmong.imp ?_
  rintro earlier later hOrder hProvides rfl
  exact hOrder (Event.tells_of_provides hProvides) (Event.tells_notFound name) hProvides rfl

/-- Where log and tables are accounted for, the log says what the tables hold. -/
theorem Accounted.chronicle (h : Accounted s written) : Chronicle s written where
  provides_once := by
    intro name
    rw [← Event.countP_filter fun _ => Event.tells_of_provides]
    exact (h.entry name).tally.provides_once
  notFound_once := by
    intro name
    rw [← List.count_filter (Event.tells_notFound name)]
    exact (h.entry name).tally.notFound_once
  notFound_first := h.notFound_first
  fails_once := by
    intro name
    rw [← Event.countP_filter fun _ => Event.tells_of_fails]
    exact (h.entry name).tally.fails_once
  fails_next := h.followed
  bound_once := h.bound_once
  handle := h.handle_iff
  absent := h.absent_iff
  target := h.target_iff

/-- What a step that meets what is in the tables can do. -/
inductive Idle (r : Registry ω) (x : Step ω) (s : State ω) : Prop where
  | still (world : ω) (hAfter : x.after r s = { s with world })
  | noted (event : Event) (hStep : x = .remark event) (hAfter : x.after r s = s.note event)
  | supplied (name : Text) (source : Source ω) (handle : Handle ω)
      (hStep : x = .register name source) (hAbsent : s.handles.get? (Text.lower name) = some none)
      (hResult : (r.register name source s).result = .ok handle)

/-- A step that meets what is in the tables leaves them alone, but for a registration under a name
without a handle. -/
theorem Step.Meets.idle (h : x.Meets s) (r : Registry ω) : Idle r x s := by
  cases Step.effect r x s with
  | still world hAfter => exact .still world hAfter
  | noted event hStep hAfter => exact .noted event hStep hAfter
  | broken name _ _ hStep hNew =>
      subst hStep
      exact absurd hNew h
  | settled name _ _ hStep hNew =>
      subst hStep
      exact absurd hNew h
  | bound handle operation hStep hNew =>
      subst hStep
      exact absurd hNew h
  | registered name source handler _ hStep _ _ hFree hResult =>
      subst hStep
      refine .supplied name source _ rfl ?_ hResult
      cases hEntry : s.handles.get? (Text.lower name) with
      | none => exact absurd hEntry h
      | some entry =>
          cases entry with
          | none => rfl
          | some held => exact absurd hEntry (hFree held)

theorem Idle.unchanged (h : Idle r x s)
    (hRemark : ∀ event, x = .remark event → event.ofRegistry = false)
    (hNot : ∀ name source handle, x = .register name source →
      s.handles.get? (Text.lower name) = some none →
      (r.register name source s).result ≠ .ok handle) : Unchanged s (x.after r s) := by
  cases h with
  | still world hAfter =>
      rw [hAfter]
      exact ⟨rfl, .refl _ _⟩
  | noted event hStep hAfter =>
      rw [hAfter]
      exact ⟨rfl, .one (P := fun event => event.ofRegistry = false) (hRemark event hStep) s.log⟩
  | supplied name source handle hStep hAbsent hResult =>
      exact absurd hResult (hNot name source handle hStep hAbsent)

theorem Step.Meets.congr {t : State ω} (h : x.Meets s) (hMemory : t.toMemory = s.toMemory) :
    x.Meets t := by
  have hHandles : t.handles = s.handles := congrArg Memory.handles hMemory
  have hTargets : t.targets = s.targets := congrArg Memory.targets hMemory
  cases x with
  | resolve name => rwa [Meets, hHandles]
  | register name source => rwa [Meets, hHandles]
  | bind handle operation => rwa [Meets, hTargets]
  | work world => trivial
  | remark event => trivial

/-- An action whose steps only meet what is there changes nothing, unless it supplies a handle. -/
theorem unchanged_action {a : Action ω} (hMeets : ∀ x ∈ a.steps r s, x.Meets s)
    (hNot : ¬ a.Supplies r s) : Unchanged s (a.after r s) := by
  rw [← afterAll_steps]
  by_cases hRegister : ∃ name source, a = .register name source
  · obtain ⟨name, source, rfl⟩ := hRegister
    refine ((hMeets _ List.mem_cons_self).idle r).unchanged nofun ?_
    intro other given handle hStep hAbsent hResult
    cases hStep
    exact hNot ⟨name, source, handle, rfl, hAbsent, hResult⟩
  · refine afterAll_keeps (P := Unchanged s) ?_ ⟨rfl, .refl _ _⟩
    rintro x hx t ⟨hMemory, hLog⟩
    have hIdle := ((hMeets x hx).congr hMemory).idle r
    obtain ⟨hSame, hMore⟩ := hIdle.unchanged
      (fun event hEvent => ofRegistry_of_mem_steps (hEvent ▸ hx)) fun name source _ hStep => by
        subst hStep
        cases Action.part_of_mem_steps hx with
        | register hAction => exact absurd ⟨name, source, hAction⟩ hRegister
    exact ⟨hSame.trans hMemory, hLog.trans hMore⟩

/-- A registration that succeeds writes one line. -/
theorem register_log {name : Text} {source : Source ω} {handle : Handle ω}
    (h : (r.register name source s).result = .ok handle) :
    (r.register name source s).state.log =
      s.log ++ [.registered (Text.lower name) handle.handler.className] := by
  rcases register_cases r name source s with
    ⟨fault, world, hFail⟩ | ⟨handler, _, _, _, hMade, hState⟩
  · rw [hFail] at h
    cases h
  · rw [hMade] at h
    cases h
    rw [hState]
    rfl

/-- At every point of every run the log records what is remembered, each of it once, and so tells
what is in the tables. -/
theorem run_chronicles (h : r.Importing) (host : Host ω) (as : List (Action ω)) :
    Chronicles r host as := by
  have hPoints : ∀ xs, xs <+: trace r as (start host) → ∃ written,
      (Step.afterAll r xs (start host)).log = host.log ++ written ∧
        Chronicle (Step.afterAll r xs (start host)) written := by
    intro xs hPrefix
    have hStart : ∃ written, (start host).log = host.log ++ written ∧
        Accounted (start host) written := ⟨[], (List.append_nil _).symm, accounted_start host⟩
    have hRemarks : ∀ event, .remark event ∈ xs → event.ofRegistry = false := fun event hEvent =>
      ofRegistry_of_mem_trace (hPrefix.subset hEvent)
    obtain ⟨written, hLog, hAccounted⟩ := accounted_afterAll h hRemarks hStart
    exact ⟨written, hLog, hAccounted.chronicle⟩
  refine ⟨hPoints, ?_, fun _ _ => unchanged_action, fun _ _ _ _ => register_log⟩
  have hRun := hPoints _ List.prefix_rfl
  rwa [afterAll_trace] at hRun

/-- A module that cannot be loaded, a handler registered in its place, and a handler that is loaded,
on a host on which another registry has written before. -/
theorem run_chronicles_supplied :
    let r : Registry Unit := {
      settings := { extensionPackages := ["gone".toList, "mine".toList] }
      environment := ⟨fun package =>
        if package = "mine".toList then
          .loaded ⟨fun name =>
            if name = "do".toList then some (.loaded (.defining "DoCommand".toList .plain))
            else if name = "bad".toList then some (.failed "broken".toList)
            else none⟩
        else .missing package⟩ }
    let host : Host Unit := { world := (), log := [.notFound "do".toList] }
    let as : List (Action Unit) := [.resolve "Bad".toList,
      .register "bad".toList (.ofHandler (.plain "P".toList)), .recognize .inline "%do(x)%".toList,
      .resolve "bad".toList]
    r.Importing ∧ Chronicles r host as ∧
      (run r as (start host)).log = host.log ++
        [.packageMissing "gone".toList,
          .loadFailed "bad".toList "mine.bad".toList "broken".toList, .notFound "bad".toList,
          .registered "bad".toList "P".toList,
          .packageMissing "gone".toList, .loaded "do".toList "mine.do".toList,
          .bound "do".toList "prepare".toList] := by
  intro r host as
  have hImporting : r.Importing := by
    refine .of_modules ?_ ?_
    · intro package fault hCrash
      dsimp only [r] at hCrash
      split at hCrash <;> cases hCrash
    · intro package found hImport name provided hModule
      dsimp only [r] at hImport
      split at hImport
      · cases hImport
        dsimp only at hModule
        split at hModule
        · cases hModule
          exact constructs_plain r name _
        · split at hModule
          · cases hModule
            trivial
          · cases hModule
      · cases hImport
  exact ⟨hImporting, run_chronicles hImporting host as, rfl⟩

end Registry

end CommandMarkup
