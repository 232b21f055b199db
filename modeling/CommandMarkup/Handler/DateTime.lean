import CommandMarkup.Calendar.Format
import CommandMarkup.Calendar.Reader
import CommandMarkup.Handler.Basic
import CommandMarkup.Handler.Markup
import CommandMarkup.Text.Blank

/-!
The `dt` command: it writes the moment that its content denotes in a configured format. Its only
parameter names the variant of the format, and empty content stands for the present moment. A
format without a pattern leaves the content as it is.
-/

namespace CommandMarkup.Handler.DateTime

open Calendar

/-- The error for any parameters but at most one bare value. -/
def invalidParameters : Fault := .reported "_INVALID_DT_PARAMETERS_".toList

/-- The error for content that denotes no moment. -/
def invalidValue : Fault := .reported "_INVALID_DT_VALUE_".toList

/-- The variant that the parameters name. -/
def variantOf : List Parameter → Except Fault (Option Text)
  | [] => .ok none
  | [.bare value] => .ok (some value)
  | _ => .error invalidParameters

/-- The moment that the content denotes. -/
def momentOf (now : Moment) (content : Text) : Except Fault Moment :=
  match Text.trim content with
  | [] => .ok now
  | t =>
    match Moment.ofIso? t with
    | some moment => .ok moment
    | none => .error invalidValue

/-- The content in a format, not yet escaped. -/
def write (now : Moment) (format : DateFormat) (content : Text) : Except Fault Text :=
  match format.pattern with
  | none => .ok content
  | some pattern =>
    match momentOf now content with
    | .ok moment => .ok (moment.format pattern)
    | .error fault => .error fault

/-- The markup for an occurrence. -/
def prepare (settings : Settings) (now : Moment) (occurrence : Occurrence) :
    Except Fault Value :=
  match variantOf occurrence.parameters with
  | .error fault => .error fault
  | .ok variant =>
    let format := settings.dateFormat variant
    match write now format occurrence.content with
    | .error fault => .error fault
    | .ok t => .ok (.text (wrap occurrence.embedding format.cssClass (Text.escape t)))

/-- The name of the handler class. -/
def className : Text := "DtCommand".toList

/-- The handler of the command, which reads the present moment off the world. -/
def handler {ω : Type} (clock : ω → Moment) (settings : Settings) : Handler ω :=
  ofPrepare className fun occurrence world => prepare settings (clock world) occurrence

/-- The class of the handler. -/
def handlerClass {ω : Type} (clock : ω → Moment) : HandlerClass ω :=
  .ofHandler className (handler clock)

end CommandMarkup.Handler.DateTime
