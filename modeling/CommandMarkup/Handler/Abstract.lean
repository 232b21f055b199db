import CommandMarkup.Handler.Basic
import CommandMarkup.Handler.Markup
import CommandMarkup.Text.Blank
import CommandMarkup.Text.Digit

/-!
The `abstract` command: it shortens its content to a number of characters, which is given as its
only parameter. Zero, or no parameter, leaves the content whole.
-/

namespace CommandMarkup.Handler.Abstract

/-- The error for any other parameters. -/
def invalidParameters : Fault := .reported "_INVALID_ABSTRACT_PARAMETERS_".toList

/-- Numbers of more digits are not read. -/
def digitLimit : Nat := 4300

/-- Reads a length, which is made of digits only. The decimal digits before any other are counted
against the limit first. -/
def readLength (t : Text) : Except Fault Nat :=
  if t.isEmpty || !t.all Text.isDigit then .error invalidParameters
  else if digitLimit < Text.leadingDigits t then .error (.tooManyDigits (Text.leadingDigits t))
  else
    match Text.numberFrom 0 t with
    | some n => .ok n
    | none => .error (.notDecimal t)

/-- The length that the parameters ask for; zero stands for none. -/
def lengthOf : List Parameter → Except Fault Nat
  | [] => .ok 0
  | [.bare value] => readLength value
  | _ => .error invalidParameters

/-- The first `length` characters and the ellipsis, if anything is left out. -/
def shorten (length : Nat) (ellipsis t : Text) : Text :=
  if length ≠ 0 ∧ length < t.length then t.take length ++ ellipsis else t

/-- The markup for an occurrence. -/
def prepare (settings : Settings) (occurrence : Occurrence) : Except Fault Value :=
  match lengthOf occurrence.parameters with
  | .error fault => .error fault
  | .ok length =>
    let body := Text.escape (shorten length settings.ellipsis (Text.trim occurrence.content))
    .ok (.text (wrap occurrence.embedding none body))

/-- The name of the handler class. -/
def className : Text := "AbstractCommand".toList

/-- The handler of the command. -/
def handler {ω : Type} (settings : Settings) : Handler ω :=
  ofPrepare className fun occurrence _ => prepare settings occurrence

/-- The class of the handler. -/
def handlerClass {ω : Type} : HandlerClass ω := .ofHandler className handler

end CommandMarkup.Handler.Abstract
