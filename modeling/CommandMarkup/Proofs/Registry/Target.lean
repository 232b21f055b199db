import CommandMarkup.Proofs.Prepared.Phases
import CommandMarkup.Proofs.Registry.Store

/-! The targets of operations over whole runs. The first handle that an operation is asked of under
a name decides the target for good, whoever the handle belongs to. A run that passes a registry only
handles that it got from it never asks two handles under one name, so each of them is dispatched to
itself, and the two phases of a command meet the same handler.

Main statement: `run_dispatches`. -/
namespace CommandMarkup.Registry

variable {ω : Type}

/-- The handle and the operation that a step asks of it. -/
def Step.request : Step ω → Option (Handle ω × Operation)
  | bind handle operation => some (handle, operation)
  | _ => none

/-- The operations that a run asks of handles, in order. -/
def requests (r : Registry ω) (as : List (Action ω)) (s : State ω) :
    List (Handle ω × Operation) := (trace r as s).filterMap Step.request

/-- Whether a request is for the operation under the name. -/
def asksFor (name : Text) (operation : Operation) (request : Handle ω × Operation) : Bool :=
  request.1.name = name ∧ request.2 = operation

/-- A target stays as it is through every step. -/
theorem Step.target_after {s : State ω} {name : Text} {operation : Operation} {target : Target ω}
    (h : s.targets.get? (name, operation) = some target) (r : Registry ω) (x : Step ω) :
    (x.after r s).targets.get? (name, operation) = some target := by
  cases slot_after r x s name operation with
  | kept hSame => rw [hSame, h]
  | made handle _ _ hNew _ =>
      rw [hNew] at h
      cases h

theorem target_afterAll {s : State ω} {name : Text} {operation : Operation} {target : Target ω}
    (h : s.targets.get? (name, operation) = some target) (r : Registry ω) (xs : List (Step ω)) :
    (Step.afterAll r xs s).targets.get? (name, operation) = some target :=
  afterAll_keeps (P := fun s => s.targets.get? (name, operation) = some target)
    (fun x _ _ hs => Step.target_after hs r x) h

theorem target_run {s : State ω} {name : Text} {operation : Operation} {target : Target ω}
    (h : s.targets.get? (name, operation) = some target) (r : Registry ω)
    (as : List (Action ω)) : (run r as s).targets.get? (name, operation) = some target := by
  rw [← afterAll_trace]
  exact target_afterAll h r (trace r as s)

/-- A step that asks for the operation under a name without a target binds it. -/
theorem Step.target_of_request {x : Step ω} {s : State ω} {name : Text} {operation : Operation}
    {request : Handle ω × Operation} (r : Registry ω) (hRequest : x.request = some request)
    (hAsks : asksFor name operation request = true)
    (hNew : s.targets.get? (name, operation) = none) :
    (x.after r s).targets.get? (name, operation) =
      some ⟨operation, request.1.handler, s.nextSerial⟩ := by
  cases x with
  | bind handle asked =>
      cases hRequest
      simp only [asksFor, decide_eq_true_eq] at hAsks
      obtain ⟨rfl, rfl⟩ := hAsks
      rw [after, bind_new hNew, Outcome.ok, State.note, Table.get?_put_self]
  | _ => cases hRequest

/-- A step that does not ask for the operation under a name leaves its target. -/
theorem Step.target_of_no_request {x : Step ω} {s : State ω} {name : Text}
    {operation : Operation} (r : Registry ω)
    (hAsks : ∀ request, x.request = some request → asksFor name operation request = false) :
    (x.after r s).targets.get? (name, operation) = s.targets.get? (name, operation) := by
  cases slot_after r x s name operation with
  | kept hSame => exact hSame
  | made handle hStep hName _ _ =>
      subst hStep hName
      have hFalse := hAsks _ rfl
      simp [asksFor] at hFalse

/-- The first request for an operation under a name decides its target. -/
theorem first_afterAll (r : Registry ω) (xs : List (Step ω)) {s : State ω} {name : Text}
    {operation : Operation} (hNew : s.targets.get? (name, operation) = none) :
    ((Step.afterAll r xs s).targets.get? (name, operation)).map
        (fun target => (target.operation, target.handler)) =
      ((xs.filterMap Step.request).find? (asksFor name operation)).map
        (fun request => (operation, request.1.handler)) := by
  induction xs generalizing s with
  | nil =>
      rw [Step.afterAll, List.foldl_nil, hNew]
      rfl
  | cons x xs ih =>
      rw [afterAll_cons]
      cases hRequest : x.request with
      | none =>
          have hKept : (x.after r s).targets.get? (name, operation) = none := by
            rw [Step.target_of_no_request r (by simp [hRequest]), hNew]
          rw [ih hKept, List.filterMap_cons_none hRequest]
      | some request =>
          rw [List.filterMap_cons_some hRequest]
          cases hAsks : asksFor name operation request with
          | false =>
              have hKept : (x.after r s).targets.get? (name, operation) = none := by
                rw [Step.target_of_no_request r (by simp [hRequest, hAsks]), hNew]
              rw [ih hKept, List.find?_cons_of_neg (by simp [hAsks])]
          | true =>
              have hBound := Step.target_of_request r hRequest hAsks hNew
              rw [target_afterAll hBound r xs, List.find?_cons_of_pos hAsks]
              rfl

/-- The target of a pair runs the handler of the first handle that was asked for it. -/
theorem target_first (r : Registry ω) (host : Host ω) (as : List (Action ω)) (name : Text)
    (operation : Operation) :
    ((run r as (start host)).targets.get? (name, operation)).map
        (fun target => (target.operation, target.handler)) =
      ((requests r as (start host)).find? (asksFor name operation)).map
        (fun request => (operation, request.1.handler)) := by
  rw [← afterAll_trace]
  exact first_afterAll r (trace r as (start host)) rfl

theorem first_of_target {r : Registry ω} {host : Host ω} {as : List (Action ω)} {name : Text}
    {operation : Operation} {target : Target ω}
    (h : (run r as (start host)).targets.get? (name, operation) = some target) :
    target.operation = operation ∧ ∃ asked,
      (requests r as (start host)).find? (asksFor name operation) = some (asked, operation) ∧
      target.handler = asked.handler := by
  have hFirst := target_first r host as name operation
  rw [h] at hFirst
  obtain ⟨⟨asked, operation'⟩, hFind, hPair⟩ := Option.map_eq_some_iff.mp hFirst.symm
  have hAsks := List.find?_some hFind
  simp only [asksFor, decide_eq_true_eq] at hAsks
  rw [hAsks.2] at hFind
  obtain ⟨hOperation, hHandler⟩ := Prod.mk.inj hPair
  exact ⟨hOperation.symm, asked, hFind, hHandler.symm⟩

/-- The outcome is what preparing with that handler comes to in the state. -/
def Prepares (handler : Handler ω) (occurrence : Occurrence) (s : State ω)
    (o : Outcome (State ω) Value) : Prop :=
  o.result = (handler.prepare occurrence s.world).result ∧
    o.state.world = (handler.prepare occurrence s.world).state

/-- The outcome is what rendering with that handler comes to in the state. -/
def Renders (handler : Handler ω) (embedding : EmbeddingType) (payload : Value) (document : Text)
    (s : State ω) (o : Outcome (State ω) Value × Text) : Prop :=
  o.1.result = (handler.render embedding payload document s.world).1.result ∧
    o.1.state.world = (handler.render embedding payload document s.world).1.state ∧
    o.2 = (handler.render embedding payload document s.world).2

theorem prepares_of_bind {handle : Handle ω} {s after : State ω} {target : Target ω}
    (h : bind handle .prepare s = .ok target after) (hWorld : after.world = s.world)
    (occurrence : Occurrence) :
    Prepares target.handler occurrence s (prepare handle occurrence s) := by
  rw [prepare, h, Outcome.ok_andThen, hWorld]
  exact ⟨rfl, rfl⟩

theorem renders_of_bind {handle : Handle ω} {s after : State ω} {target : Target ω}
    (h : bind handle .render s = .ok target after) (hWorld : after.world = s.world)
    (embedding : EmbeddingType) (payload : Value) (document : Text) :
    Renders target.handler embedding payload document s
      (render handle embedding payload document s) := by
  rw [render, h, Outcome.ok]
  dsimp only
  rw [hWorld]
  exact ⟨rfl, rfl, rfl⟩

/-- The handle that an action gives back. -/
def Action.returned (r : Registry ω) : Action ω → State ω → Option (Handle ω)
  | register name source, s =>
    match (r.register name source s).result with
    | .ok handle => some handle
    | .error _ => none
  | resolve name, s =>
    match (r.resolve name s).result with
    | .ok entry => entry
    | .error _ => none
  | _, _ => none

/-- The handle was given back during the run, by registering or resolving. -/
def Obtained (r : Registry ω) (as : List (Action ω)) (s : State ω) (handle : Handle ω) : Prop :=
  ∃ before a after, as = before ++ a :: after ∧ a.returned r (run r before s) = some handle

/-- Every handle that is passed was given back before. -/
def PassesOwn (r : Registry ω) (as : List (Action ω)) (s : State ω) : Prop :=
  ∀ before a after handle, as = before ++ a :: after → a.passed = some handle →
    Obtained r before s handle

/-- A handle that an action gives back is in the table after it. -/
theorem returned_held {r : Registry ω} {as : List (Action ω)} {s : State ω}
    (hSound : Sound r as s) {a : Action ω} {handle : Handle ω}
    (h : a.returned r s = some handle) :
    (a.after r s).handles.get? handle.name = some (some handle) := by
  cases a with
  | register name source =>
      have hResult : (r.register name source s).result = .ok handle := by
        rw [Action.returned] at h
        split at h
        case h_1 made hMade => rw [hMade, Option.some.inj h]
        case h_2 => cases h
      obtain ⟨hName, _, hState⟩ := (registering r s name source).made handle hResult
      rw [Action.after, hState, hName, Table.get?_put_self]
  | resolve name =>
      have hResult : (r.resolve name s).result = .ok (some handle) := by
        rw [Action.returned] at h
        split at h
        case h_1 entry hEntry => rw [hEntry, h]
        case h_2 => cases h
      exact (resolve_named hSound hResult).2
  | _ => cases h

/-- A handle that was given back during a run is in the table at its end. -/
theorem obtained_held {r : Registry ω} {host : Host ω} {as : List (Action ω)}
    {handle : Handle ω} (h : Obtained r as (start host) handle) :
    (run r as (start host)).handles.get? handle.name = some (some handle) := by
  obtain ⟨before, a, after, rfl, hReturned⟩ := h
  rw [run_append]
  exact handle_run (returned_held (sound_run r host before) hReturned) r after

theorem PassesOwn.of_append {r : Registry ω} {as bs : List (Action ω)} {s : State ω}
    (h : PassesOwn r (as ++ bs) s) : PassesOwn r as s := by
  intro before a after handle hSplit hPassed
  refine h before a (after ++ bs) handle ?_ hPassed
  rw [hSplit, List.append_assoc, List.cons_append]

/-- A run that passes own handles only can go on with an action that does so too. -/
theorem PassesOwn.append_singleton {r : Registry ω} {as : List (Action ω)} {s : State ω}
    (h : PassesOwn r as s) {a : Action ω}
    (hPassed : ∀ handle, a.passed = some handle → Obtained r as s handle) :
    PassesOwn r (as ++ [a]) s := by
  intro before b after handle hSplit hHandle
  rcases List.eq_nil_or_concat after with rfl | ⟨rest, last, rfl⟩
  · obtain ⟨rfl, hLast⟩ := List.append_inj' hSplit rfl
    cases hLast
    exact hPassed handle hHandle
  · rw [List.concat_eq_append, ← List.cons_append, ← List.append_assoc] at hSplit
    obtain ⟨rfl, _⟩ := List.append_inj' hSplit rfl
    exact h before b rest handle rfl hHandle

/-- A run that passes no handles passes no others. -/
theorem PassesOwn.of_none {r : Registry ω} {as : List (Action ω)} {s : State ω}
    (h : ∀ a ∈ as, a.passed = none) : PassesOwn r as s := by
  intro before a after handle hSplit hPassed
  subst hSplit
  rw [h a (List.mem_append_right _ List.mem_cons_self)] at hPassed
  cases hPassed

/-- What two runs in a row ask is what each of them asks. -/
theorem requests_append (r : Registry ω) (as bs : List (Action ω)) (s : State ω) :
    requests r (as ++ bs) s = requests r as s ++ requests r bs (run r as s) := by
  rw [requests, trace_append, List.filterMap_append]
  rfl

/-- What a single action asks, it asks of a handle that was passed to it or that it has resolved. -/
theorem request_held {r : Registry ω} {as : List (Action ω)} {s : State ω}
    (hSound : Sound r as s) {a : Action ω}
    (hPassed : ∀ handle, a.passed = some handle →
      s.handles.get? handle.name = some (some handle))
    {request : Handle ω × Operation} (h : request ∈ requests r [a] s) :
    (a.after r s).handles.get? request.1.name = some (some request.1) := by
  rw [requests, trace, trace, List.append_nil] at h
  obtain ⟨x, hx, hRequest⟩ := List.mem_filterMap.mp h
  rw [← afterAll_steps]
  cases Action.part_of_mem_steps hx with
  | passed hHandle _ =>
      cases hRequest
      exact handle_afterAll (hPassed _ hHandle) r (a.steps r s)
  | @found name handle operation rest _ hFound hSteps =>
      cases hRequest
      rw [hSteps, afterAll_cons]
      exact handle_afterAll (resolve_named hSound hFound).2 r rest
  | _ => cases hRequest

/-- A run that passes own handles asks only handles that are in the table. -/
theorem requests_held {r : Registry ω} {host : Host ω} {as : List (Action ω)}
    (hOwn : PassesOwn r as (start host)) {request : Handle ω × Operation}
    (h : request ∈ requests r as (start host)) :
    (run r as (start host)).handles.get? request.1.name = some (some request.1) := by
  induction as using List.reverseRecOn with
  | nil => cases h
  | append_singleton as a ih =>
      rw [run_append]
      rw [requests_append] at h
      rcases List.mem_append.mp h with h | h
      · exact handle_run (ih hOwn.of_append h) r [a]
      · refine request_held (sound_run r host as) ?_ h
        intro handle hPassed
        exact obtained_held (hOwn as a [] handle rfl hPassed)

/-- In such a run a handle of the table is bound to its own handler. -/
theorem bind_own {r : Registry ω} {host : Host ω} {as : List (Action ω)}
    (hOwn : PassesOwn r as (start host)) {handle : Handle ω}
    (hHeld : (run r as (start host)).handles.get? handle.name = some (some handle))
    (operation : Operation) :
    ∃ target after, bind handle operation (run r as (start host)) = .ok target after ∧
      target.handler = handle.handler ∧ after.world = (run r as (start host)).world := by
  cases hTarget : (run r as (start host)).targets.get? (handle.name, operation) with
  | none => exact ⟨_, _, bind_new hTarget, rfl, rfl⟩
  | some target =>
      refine ⟨target, _, bind_known hTarget, ?_, rfl⟩
      obtain ⟨_, asked, hFind, hHandler⟩ := first_of_target hTarget
      have hAsked := requests_held hOwn (List.mem_of_find?_eq_some hFind)
      have hAsks := List.find?_some hFind
      simp only [asksFor, decide_eq_true_eq] at hAsks
      rw [hAsks.1, hHeld] at hAsked
      cases hAsked
      exact hHandler

/-- Where own handles only are passed, preparing through a handle asks its own handler. -/
theorem prepare_own {r : Registry ω} {host : Host ω} {as : List (Action ω)}
    (hOwn : PassesOwn r as (start host)) {handle : Handle ω}
    (hHeld : (run r as (start host)).handles.get? handle.name = some (some handle))
    (occurrence : Occurrence) :
    Prepares handle.handler occurrence (run r as (start host))
      (prepare handle occurrence (run r as (start host))) := by
  obtain ⟨target, after, hBind, hHandler, hWorld⟩ := bind_own hOwn hHeld .prepare
  rw [← hHandler]
  exact prepares_of_bind hBind hWorld occurrence

theorem render_own {r : Registry ω} {host : Host ω} {as : List (Action ω)}
    (hOwn : PassesOwn r as (start host)) {handle : Handle ω}
    (hHeld : (run r as (start host)).handles.get? handle.name = some (some handle))
    (embedding : EmbeddingType) (payload : Value) (document : Text) :
    Renders handle.handler embedding payload document (run r as (start host))
      (render handle embedding payload document (run r as (start host))) := by
  obtain ⟨target, after, hBind, hHandler, hWorld⟩ := bind_own hOwn hHeld .render
  rw [← hHandler]
  exact renders_of_bind hBind hWorld embedding payload document

theorem ofText?_eq_none {text : Text} (h : ∀ operation : Operation, operation.toText ≠ text) :
    Operation.ofText? text = none := by
  rw [Operation.ofText?, List.find?_eq_none]
  intro operation _
  simpa using h operation

theorem toText_of_ofText? {text : Text} {operation : Operation}
    (h : Operation.ofText? text = some operation) : operation.toText = text := by
  simpa using List.find?_some h

/-- A target that is given back is in the table from then on, under the operation that the text
names. -/
theorem dispatchTarget_bound {handle : Handle ω} {text : Text} {s : State ω}
    {target : Target ω} (h : (dispatchTarget handle text s).result = .ok target) :
    ∃ operation, Operation.ofText? text = some operation ∧
      (dispatchTarget handle text s).state.targets.get? (handle.name, operation) =
        some target := by
  cases hOperation : Operation.ofText? text with
  | none =>
      rw [dispatchTarget, hOperation] at h
      cases h
  | some operation =>
      obtain ⟨bound, hBind, hTarget, _⟩ := bind_ok handle operation s
      rw [dispatchTarget, hOperation] at h ⊢
      dsimp only at h ⊢
      rw [hBind] at h
      cases h
      exact ⟨operation, rfl, hTarget⟩

/-- Whoever asks for an operation under a name that has a target gets it, however much later. -/
theorem dispatchTarget_run {s : State ω} {text : Text} {operation : Operation}
    {other : Handle ω} {target : Target ω} (hOperation : Operation.ofText? text = some operation)
    (hTarget : s.targets.get? (other.name, operation) = some target) (r : Registry ω)
    (later : List (Action ω)) :
    dispatchTarget other text (run r later s) = .ok target (run r later s) := by
  rw [dispatchTarget, hOperation]
  exact bind_known (target_run hTarget r later)

/-- Where the targets of a registry come from after a run, and which handlers they run. -/
structure Dispatching (r : Registry ω) (host : Host ω) (as : List (Action ω)) : Prop where
  first : ∀ name operation,
    ((run r as (start host)).targets.get? (name, operation)).map
        (fun target => (target.operation, target.handler)) =
      ((requests r as (start host)).find? (asksFor name operation)).map
        (fun request => (operation, request.1.handler))
  same : ∀ handle text target,
    (dispatchTarget handle text (run r as (start host))).result = .ok target →
    ∃ operation asked, operation.toText = text ∧ target.operation = operation ∧
      (requests r (as ++ [.dispatchTarget handle text]) (start host)).find?
        (asksFor handle.name operation) = some (asked, operation) ∧
      target.handler = asked.handler ∧
      ∀ (later : List (Action ω)) (other : Handle ω), other.name = handle.name →
        let s := run r (as ++ .dispatchTarget handle text :: later) (start host)
        dispatchTarget other text s = .ok target s
  known : ∀ handle (operation : Operation), ∃ target,
    (dispatchTarget handle operation.toText (run r as (start host))).result = .ok target
  unknown : ∀ handle text, (∀ operation : Operation, operation.toText ≠ text) →
    dispatchTarget handle text (run r as (start host)) =
      .error (.unknownOperation handle.name text) (run r as (start host))
  prepares : ∀ handle occurrence, ∃ asked,
    (requests r (as ++ [.prepare handle occurrence]) (start host)).find?
      (asksFor handle.name .prepare) = some (asked, .prepare) ∧
    Prepares asked.handler occurrence (run r as (start host))
      (prepare handle occurrence (run r as (start host)))
  renders : ∀ handle embedding payload document, ∃ asked,
    (requests r (as ++ [.render handle embedding payload document]) (start host)).find?
      (asksFor handle.name .render) = some (asked, .render) ∧
    Renders asked.handler embedding payload document (run r as (start host))
      (render handle embedding payload document (run r as (start host)))

/-- The fields follow from the first request for each pair, which no later one overrides. -/
theorem dispatching (r : Registry ω) (host : Host ω) (as : List (Action ω)) :
    Dispatching r host as where
  first := target_first r host as
  same := by
    intro handle text target hResult
    obtain ⟨operation, hOperation, hTarget⟩ := dispatchTarget_bound hResult
    have hAfter : (run r (as ++ [.dispatchTarget handle text]) (start host)).targets.get?
        (handle.name, operation) = some target := by
      rw [run_append]
      exact hTarget
    obtain ⟨hKind, asked, hFind, hHandler⟩ := first_of_target hAfter
    refine ⟨operation, asked, toText_of_ofText? hOperation, hKind, hFind, hHandler, ?_⟩
    intro later other hName
    dsimp only
    rw [List.append_cons, run_append]
    exact dispatchTarget_run hOperation (hName ▸ hAfter) r later
  known := by
    intro handle operation
    obtain ⟨target, hBind, _⟩ := bind_ok handle operation (run r as (start host))
    rw [dispatchTarget, ofText?_toText]
    exact ⟨target, congrArg Outcome.result hBind⟩
  unknown := by
    intro handle text hText
    rw [dispatchTarget, ofText?_eq_none hText]
  prepares := by
    intro handle occurrence
    obtain ⟨target, hBind, hTarget, hWorld⟩ := bind_ok handle .prepare (run r as (start host))
    have hAfter : (run r (as ++ [.prepare handle occurrence]) (start host)).targets.get?
        (handle.name, .prepare) = some target := by
      rw [run_append, run, run, Action.after, prepare_state]
      exact hTarget
    obtain ⟨_, asked, hFind, hHandler⟩ := first_of_target hAfter
    refine ⟨asked, hFind, ?_⟩
    rw [← hHandler]
    exact prepares_of_bind hBind hWorld occurrence
  renders := by
    intro handle embedding payload document
    obtain ⟨target, hBind, hTarget, hWorld⟩ := bind_ok handle .render (run r as (start host))
    have hAfter : (run r (as ++ [.render handle embedding payload document])
        (start host)).targets.get? (handle.name, .render) = some target := by
      rw [run_append, run, run, Action.after, render_state]
      exact hTarget
    obtain ⟨_, asked, hFind, hHandler⟩ := first_of_target hAfter
    refine ⟨asked, hFind, ?_⟩
    rw [← hHandler]
    exact renders_of_bind hBind hWorld embedding payload document

theorem request_reports {α : Type} (command : Text) (result : Except Fault α) :
    (reports command result : List (Step ω)).filterMap Step.request = [] := by
  cases result with
  | ok value => rfl
  | error fault => cases fault <;> rfl

/-- Putting out a prepared command that is no literal asks one thing of the handle of its name. -/
theorem requests_renderPrepared {r : Registry ω} {e : Embedding} {p : Prepared}
    {document : Text} {s resolved : State ω} {handle : Handle ω} (hPlain : p.isLiteral = false)
    (hResolve : r.resolve p.command s = .ok (some handle) resolved) :
    requests r [.renderPrepared e r.settings.outputMode p document] s = [(handle, .render)] := by
  have hSteps : (Action.renderPrepared e r.settings.outputMode p document).steps r s =
      .resolve p.command :: .bind handle .render ::
        .work (render handle e.type p.payload document resolved).1.state.world ::
        reports p.command (render handle e.type p.payload document resolved).1.result := by
    rw [Action.steps, if_neg (by simp [hPlain]), asks, hResolve]
    rfl
  rw [requests, trace, trace, List.append_nil, hSteps]
  simp only [List.filterMap_cons, Step.request, request_reports]

/-- The handler that prepared a command renders it, in one go and whenever that is. -/
structure MeetsAgain (r : Registry ω) (host : Host ω) (as : List (Action ω)) (e : Embedding)
    (command : Text) (p : Prepared) (handle : Handle ω) : Prop where
  prepared : ∃ callText content call, e.split? command = some (callText, content) ∧
    Call.parse callText = .ok call ∧ p.command = call.name ∧
    (r.resolve call.name (run r as (start host))).result = .ok (some handle) ∧
    Prepares handle.handler ⟨e.type, call.parameters, content⟩
      (r.resolve call.name (run r as (start host))).state
      ⟨.ok p.payload, (r.recognize e command (run r as (start host))).state⟩
  rendered : ∀ (later : List (Action ω)),
    PassesOwn r (as ++ .recognize e command :: later) (start host) →
    let s := run r (as ++ .recognize e command :: later) (start host)
    r.resolve p.command s = .ok (some handle) s ∧
    ∀ (e : Embedding) (document : Text),
      requests r [.renderPrepared e r.settings.outputMode p document] s = [(handle, .render)] ∧
      ∃ result after written final,
        Renders handle.handler e.type p.payload document s (⟨result, after⟩, written) ∧
        r.renderPrepared e r.settings.outputMode p document s =
          ⟨⟨(putOut result (document ++ written)).1, final⟩,
            (putOut result (document ++ written)).2⟩ ∧
        final.world = after.world

/-- A command that was prepared by a handle is rendered by it, now and after any run that passes own
handles only. -/
theorem meetsAgain {r : Registry ω} {host : Host ω} {as : List (Action ω)}
    (hOwn : PassesOwn r as (start host)) {e : Embedding} {command : Text} {p : Prepared}
    (h : (r.recognize e command (run r as (start host))).result = .ok p)
    (hPlain : p.isLiteral = false) : ∃ handle, MeetsAgain r host as e command p handle := by
  obtain ⟨callText, content, call, handle, hSplit, hParse, hFound, hCommand, hPayload, hState⟩ :=
    recognize_prepared h hPlain
  -- Up to the preparation, recognizing does what resolving the name would do.
  have hResolved : (r.resolve call.name (run r as (start host))).state =
      run r (as ++ [.resolve call.name]) (start host) := by
    rw [run_append]
    rfl
  obtain ⟨hName, hHeld⟩ := resolve_named (sound_run r host as) hFound
  rw [hResolved] at hHeld hPayload hState
  have hPrepare := prepare_own (hOwn.append_singleton (a := .resolve call.name) nofun) hHeld
    ⟨e.type, call.parameters, content⟩
  refine ⟨handle, ⟨callText, content, call, hSplit, hParse, hCommand, hFound, ?_⟩, ?_⟩
  · rw [hResolved, ← hPayload, hState]
    exact hPrepare
  · intro later hLater s
    have hRecognized : s = run r later (run r [.prepare handle ⟨e.type, call.parameters, content⟩]
        (run r (as ++ [.resolve call.name]) (start host))) := by
      rw [run, run, Action.after, ← hState]
      exact run_append r as (.recognize e command :: later) (start host)
    have hStill : s.handles.get? handle.name = some (some handle) := by
      rw [hRecognized]
      exact handle_run (handle_run hHeld r _) r later
    have hResolve : r.resolve p.command s = .ok (some handle) s := by
      refine resolve_known r ?_
      rw [hCommand, ← hName]
      exact hStill
    refine ⟨hResolve, ?_⟩
    intro e document
    refine ⟨requests_renderPrepared hPlain hResolve, ?_⟩
    have hRenders := render_own hLater hStill e.type p.payload document
    cases hRender : render handle e.type p.payload document s with
    | mk outcome written =>
        obtain ⟨final, hFinal, hWorld⟩ := renderPrepared_found hPlain hResolve hRender
        rw [hRender] at hRenders
        exact ⟨outcome.result, outcome.state, written, final, hRenders, hFinal, hWorld⟩

/-- What the dispatching of a registry comes to when every handle that is passed is its own: each
handle is dispatched to its own handler, and the two phases of a command meet the same one. -/
structure DispatchingOwn (r : Registry ω) (host : Host ω) (as : List (Action ω)) : Prop where
  prepares : ∀ handle, Obtained r as (start host) handle → ∀ occurrence,
    Prepares handle.handler occurrence (run r as (start host))
      (prepare handle occurrence (run r as (start host)))
  renders : ∀ handle, Obtained r as (start host) handle → ∀ embedding payload document,
    Renders handle.handler embedding payload document (run r as (start host))
      (render handle embedding payload document (run r as (start host)))
  meets : ∀ e command p, (r.recognize e command (run r as (start host))).result = .ok p →
    p.isLiteral = false → ∃ handle, MeetsAgain r host as e command p handle

/-- Where the targets of a registry come from, after any run and with any handles, and what follows
for a run that passes own handles only. -/
theorem run_dispatches (r : Registry ω) (host : Host ω) (as : List (Action ω)) :
    Dispatching r host as ∧ (PassesOwn r as (start host) → DispatchingOwn r host as) := by
  refine ⟨dispatching r host as, ?_⟩
  intro hOwn
  refine ⟨?_, ?_, ?_⟩
  · intro handle hObtained occurrence
    exact prepare_own hOwn (obtained_held hObtained) occurrence
  · intro handle hObtained embedding payload document
    exact render_own hOwn (obtained_held hObtained) embedding payload document
  · intro e command p hResult hPlain
    exact meetsAgain hOwn hResult hPlain

/-- A name that is resolved before it is registered, in another case. -/
theorem run_dispatches_late_registration :
    let r : Registry Unit := { environment := ⟨fun name => .missing name⟩ }
    let as : List (Action Unit) :=
      [.resolve ['D', 'o'], .register ['d', 'O'] (.ofHandler (.plain ['P']))]
    let s := run r as (start ⟨(), [], [], 0⟩)
    PassesOwn r as (start ⟨(), [], [], 0⟩) ∧
      (r.recognize .inline ['%', 'd', 'o', '(', ')', '%'] s).result =
        .ok ⟨['d', 'o'], .null, .inline⟩ ∧
      ∃ handle, MeetsAgain r ⟨(), [], [], 0⟩ as .inline ['%', 'd', 'o', '(', ')', '%']
        ⟨['d', 'o'], .null, .inline⟩ handle := by
  intro r as s
  have hOwn : PassesOwn r as (start ⟨(), [], [], 0⟩) := by
    intro before a after handle hSplit hPassed
    have hMem : a ∈ as := by
      rw [hSplit]
      exact List.mem_append_right _ List.mem_cons_self
    rcases List.mem_pair.mp hMem with rfl | rfl
    · cases hPassed
    · cases hPassed
  have hResult : (r.recognize .inline ['%', 'd', 'o', '(', ')', '%'] s).result =
      .ok ⟨['d', 'o'], .null, .inline⟩ := rfl
  exact ⟨hOwn, hResult, ((run_dispatches r _ as).2 hOwn).meets _ _ _ hResult rfl⟩

end CommandMarkup.Registry
