import CommandMarkup.Call.Basic
import CommandMarkup.Outcome
import CommandMarkup.Settings.Basic

/-!
Handlers of commands. A handler prepares a command when a document is read and renders the prepared
value each time the document is put out. What handlers work on beside their arguments is a world of
any type, which every operation passes on, failed ones too.
-/

namespace CommandMarkup

/-- What the preparation of a command is given. -/
structure Occurrence where
  embedding : EmbeddingType
  parameters : List Parameter
  content : Text
  deriving DecidableEq

namespace Occurrence

/-- The lookup map of the parameters. -/
def index (occurrence : Occurrence) : Table Text Text := Parameter.index occurrence.parameters

end Occurrence

/-- A handler of a command. Rendering sees the document so far and may write more text to it, before
its output. -/
structure Handler (ω : Type) where
  className : Text
  prepare : Occurrence → ω → Outcome ω Value
  render : EmbeddingType → Value → (document : Text) → ω → Outcome ω Value × Text

namespace Handler

/-- Renders a prepared value as it is. -/
def renderPayload {ω : Type} (_embedding : EmbeddingType) (payload : Value) (_document : Text)
    (world : ω) : Outcome ω Value × Text :=
  (⟨.ok payload, world⟩, [])

/-- A handler that prepares by a function of the settings and the occurrence, and renders the
prepared value as it is. -/
def ofPrepare {ω : Type} (className : Text) (prepare : Occurrence → ω → Except Fault Value) :
    Handler ω where
  className
  prepare := fun occurrence world => ⟨prepare occurrence world, world⟩
  render := renderPayload

/-- A handler that does nothing: it prepares null and renders the prepared value as it is. -/
def plain {ω : Type} (className : Text) : Handler ω := ofPrepare className fun _ _ => .ok .null

end Handler

/-- A class of handlers: constructing one may fail, and may change the world. -/
structure HandlerClass (ω : Type) where
  className : Text
  construct : Settings → ω → Outcome ω (Handler ω)

namespace HandlerClass

/-- The class whose handlers are a function of the settings. -/
def ofHandler {ω : Type} (className : Text) (handler : Settings → Handler ω) : HandlerClass ω where
  className
  construct := fun settings world => ⟨.ok (handler settings), world⟩

/-- The class of handlers that do nothing. -/
def plain {ω : Type} : HandlerClass ω :=
  ofHandler "CommandHandler".toList fun _ => Handler.plain "CommandHandler".toList

end HandlerClass

end CommandMarkup
