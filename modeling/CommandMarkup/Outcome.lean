import CommandMarkup.Fault

/-!
What operations on a state come to. A failed operation leaves a state too: what it did before it
failed stays done.
-/

namespace CommandMarkup

/-- The result of an operation, with the state after it. -/
structure Outcome (σ α : Type) where
  result : Except Fault α
  state : σ

namespace Outcome

variable {σ α β : Type}

/-- A success. -/
def ok (a : α) (state : σ) : Outcome σ α := ⟨.ok a, state⟩

/-- A failure. -/
def error (fault : Fault) (state : σ) : Outcome σ α := ⟨.error fault, state⟩

/-- Goes on after a success; a failure stands. -/
def andThen (o : Outcome σ α) (next : α → σ → Outcome σ β) : Outcome σ β :=
  match o.result with
  | .ok a => next a o.state
  | .error fault => error fault o.state

@[simp] theorem ok_andThen (a : α) (state : σ) (next : α → σ → Outcome σ β) :
    (ok a state).andThen next = next a state := rfl

@[simp] theorem error_andThen (fault : Fault) (state : σ) (next : α → σ → Outcome σ β) :
    (error fault state).andThen next = error fault state := rfl

end Outcome

end CommandMarkup
