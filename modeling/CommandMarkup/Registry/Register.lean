import CommandMarkup.Call.Grammar
import CommandMarkup.Registry.Basic

/-!
Registering handlers under a name, instead of finding them in a package. A name that has a handler
keeps it, but a name that is remembered to have none can be given one.
-/

namespace CommandMarkup.Registry

variable {ω : Type}

/-- What is registered: a handler, or a class to construct one with the settings of the
registry. -/
inductive Source (ω : Type) where
  | ofHandler (handler : Handler ω)
  | ofClass (handlerClass : HandlerClass ω)

/-- The handler of a source. -/
def Source.obtain (source : Source ω) (settings : Settings) (s : State ω) :
    Outcome (State ω) (Handler ω) :=
  match source with
  | .ofHandler handler => .ok handler s
  | .ofClass handlerClass =>
    let o := handlerClass.construct settings s.world
    ⟨o.result, { s with world := o.state }⟩

/-- Registers a handler under a name in whatever case, without any search. -/
def register (r : Registry ω) (name : Text) (source : Source ω) (s : State ω) :
    Outcome (State ω) (Handle ω) :=
  if Call.isName name then
    (source.obtain r.settings s).andThen fun handler s =>
      match s.handles.get? (Text.lower name) with
      | some (some _) => .error (.alreadyResolved (Text.lower name)) s
      | _ =>
        (s.onHost (s.toHost.newHandle (Text.lower name) registeredModule handler)).andThen
          fun handle s =>
            .ok handle ((s.remember (Text.lower name) (some handle)).note
              (.registered (Text.lower name) handler.className))
  else .error (.invalidName name) s

end CommandMarkup.Registry
