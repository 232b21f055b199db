import CommandMarkup.Call.Parser
import CommandMarkup.Prepared.Basic
import CommandMarkup.Registry.Dispatch
import CommandMarkup.Registry.Resolve

/-!
Recognizing commands: the call is parsed, its name is resolved, and the command is prepared. A
command that something is wrong with becomes a literal; only what breaks a handler or a package is
passed on.
-/

namespace CommandMarkup.Registry

variable {ω : Type}

/-- Recognizes a delimited command and prepares it. -/
def recognize (r : Registry ω) (e : Embedding) (command : Text) (s : State ω) :
    Outcome (State ω) Prepared :=
  match e.split? command with
  | none => .error (.notDelimited e.type command) s
  | some (callText, content) =>
    match Call.parse callText with
    | .error rejection =>
      .ok (.literal Prepared.invalidSyntax e.type)
        (s.note (.rejectedCall rejection.callText rejection.reason.message))
    | .ok call =>
      (r.resolve call.name s).andThen fun entry s =>
        match entry with
        | none => .ok (.literal Prepared.notFound e.type) s
        | some handle =>
          match prepare handle ⟨e.type, call.parameters, content⟩ s with
          | ⟨.ok payload, s⟩ => .ok ⟨call.name, payload, e.type⟩ s
          | ⟨.error (.reported message), s⟩ =>
            .ok (.literal (Prepared.wrapError message) e.type)
              (s.note (.reported call.name message))
          | ⟨.error fault, s⟩ => .error fault s

end CommandMarkup.Registry
