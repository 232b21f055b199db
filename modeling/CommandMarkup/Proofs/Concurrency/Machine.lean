import CommandMarkup.Proofs.Registry.Step
import Mathlib.Logic.Function.Basic

/-! Calls of one registry at the same time. A call is taken apart into the steps that it takes on
what all calls share: it looks for what it wants without the lock, and if that is not there it
takes the lock, looks again, makes what is missing, writes it to a table and gives the lock back.
The steps of different calls come in any order that the lock admits.

Main statement: `interleave_alone`, by which nothing is lost when a call is taken apart. -/
namespace CommandMarkup.Registry

variable {ω ι : Type}

/-- A call of a registry. -/
inductive Request (ω : Type) where
  | resolve (name : Text)
  | register (name : Text) (source : Source ω)
  | dispatchTarget (handle : Handle ω) (operation : Text)

/-- What a call gives back. -/
inductive Reply (ω : Type) where
  | entry (entry : Option (Handle ω))
  | registered (handle : Handle ω)
  | target (target : Target ω)

/-- The call in one piece. -/
def perform (r : Registry ω) : Request ω → State ω → Outcome (State ω) (Reply ω)
  | .resolve name, s => ⟨(r.resolve name s).result.map .entry, (r.resolve name s).state⟩
  | .register name source, s =>
    ⟨(r.register name source s).result.map .registered, (r.register name source s).state⟩
  | .dispatchTarget handle operation, s =>
    ⟨(dispatchTarget handle operation s).result.map .target,
      (dispatchTarget handle operation s).state⟩

/-- What a call goes to the lock for. -/
inductive Task (ω : Type) where
  | find (key : Text)
  | enter (key : Text) (handler : Handler ω)
  | bind (handle : Handle ω) (operation : Text)

/-- What a call with the lock puts into a table. -/
inductive Write (ω : Type) where
  | entry (key : Text) (entry : Option (Handle ω))
  | registered (handle : Handle ω)
  | target (name : Text) (target : Target ω)

namespace Write

/-- The state with the new entry. That a target is bound is noted along with it. -/
def put : Write ω → State ω → State ω
  | entry key held, s => s.remember key held
  | registered handle, s => s.remember handle.name (some handle)
  | target name made, s =>
    State.note { s with targets := s.targets.put (name, made.operation) made }
      (.bound name made.operation.toText)

/-- What the call gives back that has put it in. -/
def reply : Write ω → Reply ω
  | entry _ held => .entry held
  | registered handle => .registered handle
  | target _ made => .target made

end Write

/-- How far a call has come. -/
inductive Stage (ω : Type) where
  /-- Nothing is done yet. -/
  | called
  /-- The key was seen in the table, and its entry is going to be read. -/
  | fetching (key : Text)
  /-- What the call wants is not there, and it needs the lock. -/
  | waiting (task : Task ω)
  /-- The call has the lock and is going to look again. -/
  | entered (task : Task ω)
  /-- The key was seen in the table now. -/
  | refetching (key : Text)
  /-- The name is going to be searched for. -/
  | building (key : Text)
  /-- A handle is going to be made for the handler. -/
  | creating (key : Text) (handler : Handler ω)
  /-- A target is going to be made. -/
  | binding (handle : Handle ω) (operation : Operation)
  /-- What was made is going to be put into its table. -/
  | writing (write : Write ω)
  /-- The call knows its result and is going to give the lock back. -/
  | leaving (result : Except Fault (Reply ω))
  /-- A registration is going to be noted. -/
  | announcing (handle : Handle ω)
  | answered (result : Except Fault (Reply ω))
  /-- An entry was gone when it was to be read. -/
  | lost

namespace Stage

/-- The result of the call, once it is settled. -/
def result? : Stage ω → Option (Except Fault (Reply ω))
  | leaving result => some result
  | announcing handle => some (.ok (.registered handle))
  | answered result => some result
  | _ => none

/-- Whether the call has the lock. -/
def holds : Stage ω → Bool
  | entered _ => true
  | refetching _ => true
  | building _ => true
  | creating _ _ => true
  | binding _ _ => true
  | writing _ => true
  | leaving _ => true
  | _ => false

/-- Whether the next step of the call may construct a handler. -/
def constructs : Stage ω → Bool
  | called => true
  | building _ => true
  | _ => false

end Stage

/-- The target that is there for the operation of that name. -/
def boundTarget? (handle : Handle ω) (operation : Text) (s : State ω) : Option (Target ω) :=
  match Operation.ofText? operation with
  | some operation => s.targets.get? (handle.name, operation)
  | none => none

/-- Where a call goes on that has looked for what it needs with the lock. -/
def Task.look (s : State ω) : Task ω → Stage ω
  | find key => if (s.handles.get? key).isSome then .refetching key else .building key
  | enter key handler =>
    match s.handles.get? key with
    | some (some _) => .leaving (.error (.alreadyResolved key))
    | _ => .creating key handler
  | bind handle operation =>
    match boundTarget? handle operation s with
    | some target => .leaving (.ok (.target target))
    | none =>
      match Operation.ofText? operation with
      | some operation => .binding handle operation
      | none => .leaving (.error (.unknownOperation handle.name operation))

/-- What the first step of a call makes of the state, and where the call goes on. Registering
constructs the handler without the lock. -/
def Request.begin (r : Registry ω) (s : State ω) : Request ω → State ω × Stage ω
  | resolve name =>
    (s, if (s.handles.get? (Text.lower name)).isSome then .fetching (Text.lower name)
      else .waiting (.find (Text.lower name)))
  | register name source =>
    if Call.isName name then
      match source.obtain r.settings s with
      | ⟨.ok handler, s⟩ => (s, .waiting (.enter (Text.lower name) handler))
      | ⟨.error fault, s⟩ => (s, .answered (.error fault))
    else (s, .answered (.error (.invalidName name)))
  | dispatchTarget handle operation =>
    (s, match boundTarget? handle operation s with
      | some target => .answered (.ok (.target target))
      | none => .waiting (.bind handle operation))

/-- What a call has before it and leaves behind: what is shared, who has the lock, and how far the
call itself has come. -/
structure Turn (ι ω : Type) where
  state : State ω
  lock : Option ι
  stage : Stage ω

/-- The next step of a call. A call that waits for the lock in vain stays where it is. -/
def Turn.next (r : Registry ω) (i : ι) (request : Request ω) : Turn ι ω → Turn ι ω
  | ⟨s, lock, .called⟩ => ⟨(request.begin r s).1, lock, (request.begin r s).2⟩
  | ⟨s, lock, .fetching key⟩ =>
    match s.handles.get? key with
    | some entry => ⟨s, lock, .answered (.ok (.entry entry))⟩
    | none => ⟨s, lock, .lost⟩
  | ⟨s, none, .waiting task⟩ => ⟨s, some i, .entered task⟩
  | ⟨s, some holder, .waiting task⟩ => ⟨s, some holder, .waiting task⟩
  | ⟨s, lock, .entered task⟩ => ⟨s, lock, task.look s⟩
  | ⟨s, lock, .refetching key⟩ =>
    match s.handles.get? key with
    | some entry => ⟨s, lock, .leaving (.ok (.entry entry))⟩
    | none => ⟨s, lock, .lost⟩
  | ⟨s, lock, .building key⟩ =>
    match s.onHost (r.build key s.toHost) with
    | ⟨.ok entry, s⟩ => ⟨s, lock, .writing (.entry key entry)⟩
    | ⟨.error fault, s⟩ => ⟨s, lock, .leaving (.error fault)⟩
  | ⟨s, lock, .creating key handler⟩ =>
    ⟨{ s with nextSerial := s.nextSerial + 1 }, lock,
      .writing (.registered ⟨key, registeredModule, handler, s.nextSerial⟩)⟩
  | ⟨s, lock, .binding handle operation⟩ =>
    ⟨{ s with nextSerial := s.nextSerial + 1 }, lock,
      .writing (.target handle.name ⟨operation, handle.handler, s.nextSerial⟩)⟩
  | ⟨s, lock, .writing write⟩ => ⟨write.put s, lock, .leaving (.ok write.reply)⟩
  | ⟨s, _, .leaving (.ok (.registered handle))⟩ => ⟨s, none, .announcing handle⟩
  | ⟨s, _, .leaving result⟩ => ⟨s, none, .answered result⟩
  | ⟨s, lock, .announcing handle⟩ =>
    ⟨s.note (.registered handle.name handle.handler.className), lock,
      .answered (.ok (.registered handle))⟩
  | ⟨s, lock, .answered result⟩ => ⟨s, lock, .answered result⟩
  | ⟨s, lock, .lost⟩ => ⟨s, lock, .lost⟩

/-- Calls of a registry on their way: what they share, who has the lock, and how far each has come.
No step looks at the other two fields. They record in what order the results were settled, and what
world each call met when it last may have constructed a handler. -/
structure Machine (ι ω : Type) where
  state : State ω
  lock : Option ι := none
  stage : ι → Stage ω := fun _ => .called
  order : List ι := []
  met : ι → ω

namespace Machine

/-- No call has done anything yet. -/
def start (s : State ω) : Machine ι ω := { state := s, met := fun _ => s.world }

/-- What a call has before it. -/
def turn (m : Machine ι ω) (i : ι) : Turn ι ω := ⟨m.state, m.lock, m.stage i⟩

end Machine

variable [DecidableEq ι]

/-- The machine after the next step of a call. -/
def advance (r : Registry ω) (request : ι → Request ω) (i : ι) (m : Machine ι ω) :
    Machine ι ω :=
  let t := (m.turn i).next r i (request i)
  { state := t.state
    lock := t.lock
    stage := Function.update m.stage i t.stage
    order := if (m.stage i).result?.isNone ∧ t.stage.result?.isSome then m.order ++ [i] else m.order
    met := if (m.stage i).constructs then Function.update m.met i m.state.world else m.met }

/-- The machine after steps of the calls in that order. -/
def interleave (r : Registry ω) (request : ι → Request ω) (schedule : List ι)
    (m : Machine ι ω) : Machine ι ω :=
  schedule.foldl (fun m i => advance r request i m) m

theorem interleave_append (r : Registry ω) (request : ι → Request ω) (first rest : List ι)
    (m : Machine ι ω) :
    interleave r request (first ++ rest) m =
      interleave r request rest (interleave r request first m) := List.foldl_append

/-- A step of a call is its next turn on what is shared. -/
theorem turn_advance (r : Registry ω) (request : ι → Request ω) (i : ι) (m : Machine ι ω) :
    (advance r request i m).turn i = (m.turn i).next r i (request i) := by
  simp only [Machine.turn, advance, Function.update_self]

theorem stage_advance_of_ne {i j : ι} (hNe : j ≠ i) (r : Registry ω) (request : ι → Request ω)
    (m : Machine ι ω) : (advance r request i m).stage j = m.stage j :=
  Function.update_of_ne hNe _ _

/-- As long as nothing comes in between, the steps of a call are its own turns one after the
other. -/
theorem turn_replicate (r : Registry ω) (request : ι → Request ω) (i : ι) (steps : Nat)
    (m : Machine ι ω) : (interleave r request (List.replicate steps i) m).turn i =
      (Turn.next r i (request i))^[steps] (m.turn i) := by
  induction steps generalizing m with
  | zero => rfl
  | succ steps ih =>
      rw [Function.iterate_succ_apply, ← turn_advance, ← ih]
      rfl

/-- A call that nothing comes in between of does what it does in one piece. -/
theorem interleave_alone (r : Registry ω) (request : ι → Request ω) (i : ι) {m : Machine ι ω}
    (hLock : m.lock = none) (hStage : m.stage i = .called) :
    (interleave r request (List.replicate 7 i) m).turn i =
      ⟨(r.perform (request i) m.state).state, none,
        .answered (r.perform (request i) m.state).result⟩ := by
  rw [turn_replicate, Machine.turn, hLock, hStage]
  generalize m.state = s
  cases request i with
  | resolve name =>
      rw [perform, resolve]
      cases hEntry : s.handles.get? (Text.lower name) with
      | some entry => simp [Turn.next, Request.begin, hEntry, Outcome.ok, Except.map]
      | none =>
          cases hBuild : s.onHost (r.build (Text.lower name) s.toHost) with
          | mk result after =>
              cases result with
              | ok entry =>
                  simp [Turn.next, Request.begin, Task.look, hEntry, hBuild, Outcome.andThen,
                    Outcome.ok, Except.map, Write.put, Write.reply]
              | error fault =>
                  simp [Turn.next, Request.begin, Task.look, hEntry, hBuild, Outcome.andThen,
                    Outcome.error, Except.map]
  | register name source =>
      rw [perform, register]
      cases hName : Call.isName name with
      | false => simp [Turn.next, Request.begin, hName, Outcome.error, Except.map]
      | true =>
          cases hObtain : source.obtain r.settings s with
          | mk result after =>
              cases result with
              | error fault =>
                  simp [Turn.next, Request.begin, hName, hObtain, Outcome.andThen, Outcome.error,
                    Except.map]
              | ok handler =>
                  cases hEntry : after.handles.get? (Text.lower name) with
                  | none =>
                      simp [Turn.next, Request.begin, Task.look, hName, hObtain, hEntry,
                        Outcome.andThen, Outcome.ok, Except.map, Write.put, Write.reply,
                        State.onHost, Host.newHandle]
                  | some entry =>
                      cases entry with
                      | none =>
                          simp [Turn.next, Request.begin, Task.look, hName, hObtain, hEntry,
                            Outcome.andThen, Outcome.ok, Except.map, Write.put, Write.reply,
                            State.onHost, Host.newHandle]
                      | some held =>
                          simp [Turn.next, Request.begin, Task.look, hName, hObtain, hEntry,
                            Outcome.andThen, Outcome.error, Except.map]
  | dispatchTarget handle operation =>
      rw [perform, dispatchTarget]
      cases hOperation : Operation.ofText? operation with
      | none =>
          simp [Turn.next, Request.begin, Task.look, boundTarget?, hOperation, Outcome.error,
            Except.map]
      | some operation =>
          cases hTarget : s.targets.get? (handle.name, operation) with
          | some target =>
              simp [Turn.next, Request.begin, boundTarget?, hOperation, hTarget, bind, Outcome.ok,
                Except.map]
          | none =>
              simp [Turn.next, Request.begin, Task.look, boundTarget?, hOperation, hTarget, bind,
                Outcome.ok, Except.map, Write.put, Write.reply]

end CommandMarkup.Registry
