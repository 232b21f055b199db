import CommandMarkup.Prepared.Recognize
import CommandMarkup.Prepared.Render
import CommandMarkup.Proofs.Registry.Step

/-! Runs: anything done with a registry, in any order and however it turns out, and the single
steps that a run is made of. `afterAll_trace` says that the steps of a run lead to where the run
leads, so what every step keeps, every run keeps. -/
namespace CommandMarkup.Registry

variable {ω : Type}

/-- What can be done with a registry. An operation that handlers do not have comes to the failure
of `dispatchTarget`. -/
inductive Action (ω : Type) where
  | register (name : Text) (source : Source ω)
  | resolve (name : Text)
  | isKnown (name : Text)
  | dispatchTarget (handle : Handle ω) (operation : Text)
  | prepare (handle : Handle ω) (occurrence : Occurrence)
  | render (handle : Handle ω) (embedding : EmbeddingType) (payload : Value) (document : Text)
  | recognize (e : Embedding) (command : Text)
  | renderPrepared (e : Embedding) (mode : Text) (prepared : Prepared) (document : Text)

/-- The step that reports a handler's error, if it reports one. -/
def reports {α : Type} (command : Text) : Except Fault α → List (Step ω)
  | .error (.reported message) => [.remark (.reported command message)]
  | _ => []

/-- The steps of resolving a name and asking an operation of the handle, if there is one. -/
def asks (r : Registry ω) (name : Text) (operation : Operation)
    (ask : Handle ω → State ω → Outcome (State ω) Value) (s : State ω) : List (Step ω) :=
  .resolve name ::
    match r.resolve name s with
    | ⟨.ok (some handle), resolved⟩ =>
      .bind handle operation :: .work (ask handle resolved).state.world ::
        reports name (ask handle resolved).result
    | _ => []

namespace Action

/-- The state after an action, whether it succeeds or fails. -/
def after (r : Registry ω) : Action ω → State ω → State ω
  | register name source, s => (r.register name source s).state
  | resolve name, s => (r.resolve name s).state
  | isKnown name, s => (r.isKnown name s).state
  | dispatchTarget handle operation, s => (Registry.dispatchTarget handle operation s).state
  | prepare handle occurrence, s => (Registry.prepare handle occurrence s).state
  | render handle embedding payload document, s =>
    (Registry.render handle embedding payload document s).1.state
  | recognize e command, s => (r.recognize e command s).state
  | renderPrepared e mode p document, s => (r.renderPrepared e mode p document s).outcome.state

/-- The steps of an action that starts in a state. -/
def steps (r : Registry ω) : Action ω → State ω → List (Step ω)
  | register name source, _ => [.register name source]
  | resolve name, _ => [.resolve name]
  | isKnown name, _ => [.resolve name]
  | dispatchTarget handle operation, _ =>
    match Operation.ofText? operation with
    | some operation => [.bind handle operation]
    | none => []
  | prepare handle occurrence, s =>
    [.bind handle .prepare, .work (Registry.prepare handle occurrence s).state.world]
  | render handle embedding payload document, s =>
    [.bind handle .render,
      .work (Registry.render handle embedding payload document s).1.state.world]
  | recognize e command, s =>
    match e.split? command with
    | none => []
    | some (callText, content) =>
      match Call.parse callText with
      | .error rejection =>
        [.remark (.rejectedCall rejection.callText rejection.reason.message)]
      | .ok call =>
        asks r call.name .prepare
          (fun handle s => Registry.prepare handle ⟨e.type, call.parameters, content⟩ s) s
  | renderPrepared e mode p document, s =>
    if mode ≠ r.settings.outputMode ∨ p.isLiteral then []
    else
      asks r p.command .render
        (fun handle s => (Registry.render handle e.type p.payload document s).1) s

end Action

/-- The state after a list of steps. -/
def Step.afterAll (r : Registry ω) (xs : List (Step ω)) (s : State ω) : State ω :=
  xs.foldl (fun s x => x.after r s) s

/-- The state after a run. -/
def run (r : Registry ω) : List (Action ω) → State ω → State ω
  | [], s => s
  | a :: as, s => run r as (a.after r s)

/-- The steps of a run. -/
def trace (r : Registry ω) : List (Action ω) → State ω → List (Step ω)
  | [], _ => []
  | a :: as, s => a.steps r s ++ trace r as (a.after r s)

/-- A registry that has met no name, on a host on which anything may have happened. -/
def start (host : Host ω) : State ω := { toHost := host }

theorem run_append (r : Registry ω) (as bs : List (Action ω)) (s : State ω) :
    run r (as ++ bs) s = run r bs (run r as s) := by
  induction as generalizing s with
  | nil => rfl
  | cons a as ih => exact ih (a.after r s)

theorem trace_append (r : Registry ω) (as bs : List (Action ω)) (s : State ω) :
    trace r (as ++ bs) s = trace r as s ++ trace r bs (run r as s) := by
  induction as generalizing s with
  | nil => rfl
  | cons a as ih =>
      rw [List.cons_append, trace, trace, ih, List.append_assoc]
      rfl

theorem isKnown_state (r : Registry ω) (name : Text) (s : State ω) :
    (r.isKnown name s).state = (r.resolve name s).state := by
  rw [isKnown]
  cases r.resolve name s with
  | mk result after =>
      cases result with
      | error fault => rfl
      | ok entry => rfl

/-- Binding always succeeds, its target is there afterwards, and the world is as before. -/
theorem bind_ok (handle : Handle ω) (operation : Operation) (s : State ω) :
    ∃ target, bind handle operation s = .ok target (bind handle operation s).state ∧
      (bind handle operation s).state.targets.get? (handle.name, operation) = some target ∧
      (bind handle operation s).state.world = s.world := by
  cases hTarget : s.targets.get? (handle.name, operation) with
  | some target =>
      rw [bind_known hTarget]
      exact ⟨target, rfl, hTarget, rfl⟩
  | none =>
      rw [bind_new hTarget]
      exact ⟨_, rfl, Table.get?_put_self _ _ _, rfl⟩

/-- Preparing binds the target and then leaves a world behind. -/
theorem prepare_state (handle : Handle ω) (occurrence : Occurrence) (s : State ω) :
    (prepare handle occurrence s).state =
      { (bind handle .prepare s).state with
        world := (prepare handle occurrence s).state.world } := by
  obtain ⟨target, hBind, _⟩ := bind_ok handle .prepare s
  rw [prepare, hBind]
  rfl

theorem render_state (handle : Handle ω) (embedding : EmbeddingType) (payload : Value)
    (document : Text) (s : State ω) :
    (render handle embedding payload document s).1.state =
      { (bind handle .render s).state with
        world := (render handle embedding payload document s).1.state.world } := by
  obtain ⟨target, hBind, _⟩ := bind_ok handle .render s
  rw [render, hBind]
  rfl

theorem afterAll_cons (r : Registry ω) (x : Step ω) (xs : List (Step ω)) (s : State ω) :
    Step.afterAll r (x :: xs) s = Step.afterAll r xs (x.after r s) := rfl

/-- Recognizing leads to the state after its steps, wherever it stops. -/
theorem afterAll_steps_recognize (r : Registry ω) (e : Embedding) (command : Text)
    (s : State ω) :
    Step.afterAll r ((Action.recognize e command).steps r s) s = (r.recognize e command s).state := by
  rw [Action.steps, recognize]
  cases e.split? command with
  | none => rfl
  | some parts =>
      obtain ⟨callText, content⟩ := parts
      dsimp only
      cases Call.parse callText with
      | error rejection => rfl
      | ok call =>
          dsimp only
          rw [asks, afterAll_cons, Step.after]
          cases r.resolve call.name s with
          | mk result resolved =>
              cases result with
              | error fault => rfl
              | ok entry =>
                  cases entry with
                  | none => rfl
                  | some handle =>
                      have hState := prepare_state handle ⟨e.type, call.parameters, content⟩ resolved
                      rw [Outcome.andThen]
                      dsimp only
                      rw [afterAll_cons, afterAll_cons, Step.after, Step.after, ← hState]
                      cases prepare handle ⟨e.type, call.parameters, content⟩ resolved with
                      | mk result prepared =>
                          cases result with
                          | ok payload => rfl
                          | error fault => cases fault <;> rfl

/-- Putting out leads to the state after its steps, wherever it stops. -/
theorem afterAll_steps_renderPrepared (r : Registry ω) (e : Embedding) (mode : Text)
    (p : Prepared) (document : Text) (s : State ω) :
    Step.afterAll r ((Action.renderPrepared e mode p document).steps r s) s =
      (r.renderPrepared e mode p document s).outcome.state := by
  rw [Action.steps, renderPrepared]
  by_cases hMode : mode = r.settings.outputMode
  · rw [if_neg (not_not.mpr hMode)]
    cases hLiteral : p.isLiteral with
    | true =>
        rw [if_pos (.inr rfl), if_pos rfl]
        cases p.payload <;> rfl
    | false =>
        rw [if_neg (by simp [hMode]), if_neg Bool.false_ne_true, asks, afterAll_cons,
          Step.after]
        cases r.resolve p.command s with
        | mk result resolved =>
            cases result with
            | error fault => rfl
            | ok entry =>
                cases entry with
                | none => rfl
                | some handle =>
                    dsimp only
                    rw [afterAll_cons, afterAll_cons, Step.after, Step.after,
                      ← render_state handle e.type p.payload document resolved]
                    generalize render handle e.type p.payload document resolved = rendered
                    obtain ⟨⟨result, after⟩, written⟩ := rendered
                    cases result with
                    | error fault => cases fault <;> rfl
                    | ok output =>
                        dsimp only
                        cases appendOutput output (document ++ written) <;> rfl
  · rw [if_pos (.inl hMode), if_pos hMode]
    rfl

/-- An action leaves the state that its steps lead to. So whatever each step preserves every action
preserves. -/
theorem afterAll_steps (r : Registry ω) (a : Action ω) (s : State ω) :
    Step.afterAll r (a.steps r s) s = a.after r s := by
  cases a with
  | register name source => rfl
  | resolve name => rfl
  | isKnown name => exact (isKnown_state r name s).symm
  | dispatchTarget handle operation =>
      rw [Action.steps, Action.after, dispatchTarget]
      cases Operation.ofText? operation with
      | none => rfl
      | some operation => rfl
  | prepare handle occurrence => exact (prepare_state handle occurrence s).symm
  | render handle embedding payload document =>
      exact (render_state handle embedding payload document s).symm
  | recognize e command => exact afterAll_steps_recognize r e command s
  | renderPrepared e mode p document => exact afterAll_steps_renderPrepared r e mode p document s

/-- A run leaves the state that the steps of its actions lead to. -/
theorem afterAll_trace (r : Registry ω) (as : List (Action ω)) (s : State ω) :
    Step.afterAll r (trace r as s) s = run r as s := by
  induction as generalizing s with
  | nil => rfl
  | cons a as ih =>
      rw [trace, Step.afterAll, List.foldl_append]
      change Step.afterAll r _ (Step.afterAll r (a.steps r s) s) = _
      rw [afterAll_steps, ih]
      rfl

/-- What each step of a list keeps, the list keeps. -/
theorem afterAll_keeps {r : Registry ω} {P : State ω → Prop} {xs : List (Step ω)}
    (hStep : ∀ x ∈ xs, ∀ s, P s → P (x.after r s)) {s : State ω} (h : P s) :
    P (Step.afterAll r xs s) := by
  induction xs generalizing s with
  | nil => exact h
  | cons x xs ih =>
      rw [afterAll_cons]
      have hHead : P (x.after r s) := hStep x List.mem_cons_self s h
      exact ih (fun y hy => hStep y (List.mem_cons_of_mem _ hy)) hHead

/-- What the steps of asking an operation of a name can be. -/
inductive Asking (r : Registry ω) (name : Text) (operation : Operation) (s : State ω) :
    Step ω → Prop where
  | resolve : Asking r name operation s (.resolve name)
  | bind {handle : Handle ω} (hFound : (r.resolve name s).result = .ok (some handle)) :
      Asking r name operation s (.bind handle operation)
  | work {world : ω} : Asking r name operation s (.work world)
  | report {message : Text} : Asking r name operation s (.remark (.reported name message))

theorem exists_of_mem_reports {α : Type} {command : Text} {result : Except Fault α} {x : Step ω}
    (h : x ∈ (reports command result : List (Step ω))) :
    ∃ message, x = .remark (.reported command message) := by
  cases result with
  | ok value => cases h
  | error fault =>
      cases fault
      case reported message => exact ⟨message, List.mem_singleton.mp h⟩
      all_goals cases h

theorem asking_of_mem {r : Registry ω} {name : Text} {operation : Operation}
    {ask : Handle ω → State ω → Outcome (State ω) Value} {s : State ω} {x : Step ω}
    (h : x ∈ asks r name operation ask s) : Asking r name operation s x := by
  rcases List.mem_cons.mp h with rfl | hRest
  · exact .resolve
  · cases hResolve : r.resolve name s with
    | mk result resolved =>
        rw [hResolve] at hRest
        cases result with
        | error fault => cases hRest
        | ok entry =>
            cases entry with
            | none => cases hRest
            | some handle =>
                rcases List.mem_cons.mp hRest with rfl | hRest
                · exact .bind (by rw [hResolve])
                · rcases List.mem_cons.mp hRest with rfl | hReports
                  · exact .work
                  · obtain ⟨message, rfl⟩ := exists_of_mem_reports hReports
                    exact .report

namespace Action

/-- The key of the name that an action is about. Text that is no call is about none. -/
def subject : Action ω → Option Text
  | register name _ => some (Text.lower name)
  | resolve name => some (Text.lower name)
  | isKnown name => some (Text.lower name)
  | dispatchTarget handle _ => some handle.name
  | prepare handle _ => some handle.name
  | render handle _ _ _ => some handle.name
  | recognize e command =>
    match e.split? command with
    | none => none
    | some (callText, _) =>
      match Call.parse callText with
      | .error _ => none
      | .ok call => some (Text.lower call.name)
  | renderPrepared _ _ p _ => some (Text.lower p.command)

/-- The handle that an action is given. -/
def passed : Action ω → Option (Handle ω)
  | dispatchTarget handle _ => some handle
  | prepare handle _ => some handle
  | render handle _ _ _ => some handle
  | _ => none

/-- What the steps of an action can be. A handle that was not passed was resolved just before. -/
inductive Part (r : Registry ω) (a : Action ω) (s : State ω) : Step ω → Prop where
  | register {name : Text} {source : Source ω} (hAction : a = .register name source) :
      Part r a s (.register name source)
  | resolve {name : Text} (hSubject : a.subject = some (Text.lower name)) :
      Part r a s (.resolve name)
  | passed {handle : Handle ω} {operation : Operation} (hPassed : a.passed = some handle)
      (hSubject : a.subject = some handle.name) : Part r a s (.bind handle operation)
  | found {name : Text} {handle : Handle ω} {operation : Operation} {rest : List (Step ω)}
      (hSubject : a.subject = some (Text.lower name))
      (hFound : (r.resolve name s).result = .ok (some handle))
      (hSteps : a.steps r s = .resolve name :: rest) : Part r a s (.bind handle operation)
  | work {world : ω} : Part r a s (.work world)
  | remark {event : Event} : Part r a s (.remark event)

theorem part_of_mem_asks {r : Registry ω} {a : Action ω} {s : State ω} {x : Step ω}
    {name : Text} {operation : Operation} {ask : Handle ω → State ω → Outcome (State ω) Value}
    (hSubject : a.subject = some (Text.lower name))
    (hSteps : a.steps r s = asks r name operation ask s) (h : x ∈ asks r name operation ask s) :
    Part r a s x := by
  cases asking_of_mem h with
  | resolve => exact .resolve hSubject
  | bind hFound => exact .found hSubject hFound hSteps
  | work => exact .work
  | report => exact .remark

/-- Every step of an action is one of its parts. -/
theorem part_of_mem_steps {r : Registry ω} {a : Action ω} {s : State ω} {x : Step ω}
    (h : x ∈ a.steps r s) : Part r a s x := by
  cases a with
  | register name source =>
      cases List.mem_singleton.mp h
      exact .register rfl
  | resolve name =>
      cases List.mem_singleton.mp h
      exact .resolve rfl
  | isKnown name =>
      cases List.mem_singleton.mp h
      exact .resolve rfl
  | dispatchTarget handle operation =>
      rw [steps] at h
      cases hOperation : Operation.ofText? operation with
      | none =>
          rw [hOperation] at h
          cases h
      | some operation =>
          rw [hOperation] at h
          cases List.mem_singleton.mp h
          exact .passed rfl rfl
  | prepare handle occurrence =>
      rcases List.mem_pair.mp h with rfl | rfl
      · exact .passed rfl rfl
      · exact .work
  | render handle embedding payload document =>
      rcases List.mem_pair.mp h with rfl | rfl
      · exact .passed rfl rfl
      · exact .work
  | recognize e command =>
      cases hSplit : e.split? command with
      | none => simp [steps, hSplit] at h
      | some parts =>
          obtain ⟨callText, content⟩ := parts
          cases hParse : Call.parse callText with
          | error rejection =>
              simp only [steps, hSplit, hParse, List.mem_singleton] at h
              subst h
              exact .remark
          | ok call =>
              have hSubject : (recognize e command : Action ω).subject =
                  some (Text.lower call.name) := by
                simp only [subject, hSplit, hParse]
              have hSteps : (recognize e command).steps r s = asks r call.name .prepare
                  (fun handle s => Registry.prepare handle ⟨e.type, call.parameters, content⟩ s)
                  s := by
                simp only [steps, hSplit, hParse]
              rw [hSteps] at h
              exact part_of_mem_asks hSubject hSteps h
  | renderPrepared e mode p document =>
      by_cases hIdle : mode ≠ r.settings.outputMode ∨ p.isLiteral
      · rw [steps, if_pos hIdle] at h
        cases h
      · have hSteps : (renderPrepared e mode p document).steps r s = asks r p.command .render
            (fun handle s => (Registry.render handle e.type p.payload document s).1) s := by
          rw [steps, if_neg hIdle]
        rw [hSteps] at h
        exact part_of_mem_asks rfl hSteps h

end Action

/-- What is registered in the steps of a run is registered by one of its actions. -/
theorem mem_trace_register {r : Registry ω} {as : List (Action ω)} {s : State ω} {name : Text}
    {source : Source ω} (h : Step.register name source ∈ trace r as s) :
    Action.register name source ∈ as := by
  induction as generalizing s with
  | nil => cases h
  | cons a as ih =>
      rw [trace] at h
      rcases List.mem_append.mp h with h | h
      · cases Action.part_of_mem_steps h with
        | register hAction =>
            rw [hAction]
            exact List.mem_cons_self
      · exact List.mem_cons_of_mem _ (ih h)

end CommandMarkup.Registry
