import CommandMarkup.Prepared.Basic
import CommandMarkup.Registry.Dispatch
import CommandMarkup.Registry.Resolve
import CommandMarkup.Text.Escape

/-!
Rendering prepared commands at the end of a document. The document only ever grows: by what the
handler writes to it, and then by one piece for the command.
-/

namespace CommandMarkup.Registry

variable {ω : Type}

/-- What rendering comes to: whether the mode was one to render in, the document after it, and the
state. -/
structure Rendering (ω : Type) where
  outcome : Outcome (State ω) Bool
  document : Text

/-- The output of a handler at the end of a document. Text is put out as it is, blank output is
none, and nothing else can be put out. -/
def appendOutput (output : Value) (document : Text) : Except Fault Text :=
  match output with
  | .text t => .ok (document ++ t)
  | _ => if output.isBlank then .ok document else .error (.outputNotText output.kindName)

/-- Puts a prepared command out at the end of a document, in the output mode of the settings; in
any other mode nothing happens. A handler renders for the embedding that is given here. -/
def renderPrepared (r : Registry ω) (e : Embedding) (mode : Text) (p : Prepared)
    (document : Text) (s : State ω) : Rendering ω :=
  if mode ≠ r.settings.outputMode then ⟨.ok false s, document⟩
  else if p.isLiteral then
    match p.payload with
    | .text t => ⟨.ok true s, document ++ Text.escape t⟩
    | payload => ⟨.error (.payloadNotText payload.kindName) s, document⟩
  else
    match r.resolve p.command s with
    | ⟨.error fault, s⟩ => ⟨.error fault s, document⟩
    | ⟨.ok none, s⟩ => ⟨.ok true s, document ++ Prepared.notFound⟩
    | ⟨.ok (some handle), s⟩ =>
      let rendered := render handle e.type p.payload document s
      let document := document ++ rendered.2
      let s := rendered.1.state
      match rendered.1.result with
      | .error (.reported message) =>
        ⟨.ok true (s.note (.reported p.command message)), document ++ Text.escape message⟩
      | .error fault => ⟨.error fault s, document⟩
      | .ok output =>
        match appendOutput output document with
        | .ok document => ⟨.ok true s, document⟩
        | .error fault => ⟨.error fault s, document⟩

end CommandMarkup.Registry
