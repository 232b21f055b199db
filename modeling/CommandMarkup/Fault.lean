import CommandMarkup.Call.Reason
import CommandMarkup.Embedding.Basic
import CommandMarkup.Value

/-!
Everything that can go wrong while commands are read, resolved, prepared and rendered, and how each
of it is put in words.
-/

namespace CommandMarkup

/-- The kinds of failure that handlers and command modules may bring in from outside. -/
inductive ForeignKind where
  | general
  | value
  | importing
  | runtime
  | type
  | attribute
  deriving DecidableEq

/-- A failure, told apart by its cause. -/
inductive Fault where
  /-- The text is no call, for a reason given in words. -/
  | rejectedCall (callText reason : Text)
  /-- A handler reports an error to be shown in place of the command. -/
  | reported (message : Text)
  /-- A command module exists but provides no handler. -/
  | load (command moduleName reason : Text)
  /-- Handlers have no such operation. -/
  | unknownOperation (command operation : Text)
  /-- No handler can be registered under a text that is no name. -/
  | invalidName (name : Text)
  /-- No handler can be registered where there is one. -/
  | alreadyResolved (name : Text)
  /-- The text does not stand between the delimiters of an embedding of the type. -/
  | notDelimited (type : EmbeddingType) (command : Text)
  /-- A number is written with more digits than are read. -/
  | tooManyDigits (count : Nat)
  /-- Not all digits of a number are decimal. -/
  | notDecimal (digits : Text)
  /-- The payload of a literal is of another kind than text. -/
  | payloadNotText (kind : Text)
  /-- A handler renders something that is neither text nor blank. -/
  | outputNotText (kind : Text)
  /-- A failure from outside. -/
  | foreign (kind : ForeignKind) (message : Text)
  deriving DecidableEq

namespace Fault

/-- The fault of a text that is no call. -/
def ofRejection (r : Call.Rejection) : Fault := rejectedCall r.callText r.reason.message

/-- The fault in words. -/
def message : Fault → Text
  | rejectedCall callText reason =>
    "Invalid call string ".toList ++ Text.quote callText ++ ": ".toList ++ reason
  | reported text => text
  | load command moduleName reason =>
    "Cannot load command '".toList ++ command ++ "' from ".toList ++ moduleName ++ ": ".toList
      ++ reason
  | unknownOperation command operation =>
    "Command '".toList ++ command ++ "' has no operation '".toList ++ operation ++ "'".toList
  | invalidName name => "Invalid command name: ".toList ++ Text.quote name
  | alreadyResolved name => "Command '".toList ++ name ++ "' is already resolved".toList
  | notDelimited type command =>
    "Not a ".toList ++ type.toText ++ " command: ".toList ++ Text.quote command
  | tooManyDigits count =>
    "Exceeds the limit (4300 digits) for integer string conversion: value has ".toList
      ++ Text.ofNat count
      ++ " digits; use sys.set_int_max_str_digits() to increase the limit".toList
  | notDecimal digits =>
    "invalid literal for int() with base 10: ".toList ++ (Text.quote digits).take 200
  | payloadNotText kind => "'".toList ++ kind ++ "' object has no attribute 'replace'".toList
  | outputNotText kind =>
    "can only concatenate str (not \"".toList ++ kind ++ "\") to str".toList
  | foreign _ text => text

end Fault

end CommandMarkup
