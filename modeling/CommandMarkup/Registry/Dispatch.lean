import CommandMarkup.Registry.Basic

/-!
Dispatching operations. The first handle that an operation is asked of under a name binds the
target for that name; whoever asks later gets the same target.
-/

namespace CommandMarkup.Registry

variable {ω : Type}

/-- The target of an operation under the name of a handle. -/
def bind (handle : Handle ω) (operation : Operation) (s : State ω) :
    Outcome (State ω) (Target ω) :=
  match s.targets.get? (handle.name, operation) with
  | some target => .ok target s
  | none =>
    let target : Target ω := ⟨operation, handle.handler, s.nextSerial⟩
    .ok target
      ({ s with
          targets := s.targets.put (handle.name, operation) target
          nextSerial := s.nextSerial + 1 }.note (.bound handle.name operation.toText))

/-- The target of the operation of that name, if there is such an operation. -/
def dispatchTarget (handle : Handle ω) (operation : Text) (s : State ω) :
    Outcome (State ω) (Target ω) :=
  match Operation.ofText? operation with
  | some operation => bind handle operation s
  | none => .error (.unknownOperation handle.name operation) s

/-- Prepares an occurrence through the target for it. -/
def prepare (handle : Handle ω) (occurrence : Occurrence) (s : State ω) :
    Outcome (State ω) Value :=
  (bind handle .prepare s).andThen fun target s =>
    let o := target.handler.prepare occurrence s.world
    ⟨o.result, { s with world := o.state }⟩

/-- Renders a prepared value through the target for it, and says what the handler wrote to the
document by itself. -/
def render (handle : Handle ω) (embedding : EmbeddingType) (payload : Value) (document : Text)
    (s : State ω) : Outcome (State ω) Value × Text :=
  match bind handle .render s with
  | ⟨.error fault, s⟩ => (.error fault s, [])
  | ⟨.ok target, s⟩ =>
    let o := target.handler.render embedding payload document s.world
    (⟨o.1.result, { s with world := o.1.state }⟩, o.2)

end CommandMarkup.Registry
