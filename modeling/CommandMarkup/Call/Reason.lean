import CommandMarkup.Call.Grammar
import CommandMarkup.Text.Quoted

/-!
Why a text is no call: the reason names the first thing that is wrong with it, and a rejection
carries the text together with the reason.
-/

namespace CommandMarkup.Call

/-- What is wrong with a text that should be a call. Positions count parameters from one. -/
inductive Reason where
  | empty
  | invalidName (name : Text)
  | noParameters
  | emptyParameter (position : Nat)
  | malformedParameter (parameter : Text) (position : Nat)
  | unexplained
  deriving DecidableEq

namespace Reason

/-- The reason in words. -/
def message : Reason → Text
  | empty => "empty call string".toList
  | invalidName name => "invalid command name ".toList ++ Text.quote name
  | noParameters => "'?' must be followed by at least one parameter".toList
  | emptyParameter position => "empty parameter at position ".toList ++ Text.ofNat position
  | malformedParameter parameter position =>
    "malformed parameter ".toList ++ Text.quote parameter ++ " at position ".toList
      ++ Text.ofNat position
  | unexplained => "does not match call grammar".toList

end Reason

/-- A text that is no call, with the reason. -/
structure Rejection where
  callText : Text
  reason : Reason
  deriving DecidableEq

end CommandMarkup.Call
