import CommandMarkup.Fault

/-!
What the log records.
-/

namespace CommandMarkup

/-- How much an event matters. -/
inductive Level where
  | debug
  | warning
  deriving DecidableEq

namespace Level

/-- The level in one word. -/
def toText : Level → Text
  | debug => "DEBUG".toList
  | warning => "WARNING".toList

end Level

/-- Something that the log records. -/
inductive Event where
  | registered (command className : Text)
  | loaded (command moduleName : Text)
  | notFound (command : Text)
  | packageMissing (package : Text)
  | loadFailed (command moduleName reason : Text)
  | bound (command operation : Text)
  | rejectedCall (callText reason : Text)
  | reported (command message : Text)
  deriving DecidableEq

namespace Event

/-- What keeps a command from being found is a warning, all else is for debugging. -/
def level : Event → Level
  | packageMissing _ => .warning
  | loadFailed _ _ _ => .warning
  | _ => .debug

/-- The event in words. -/
def message : Event → Text
  | registered command className =>
    "Registered command '".toList ++ command ++ "': ".toList ++ className
  | loaded command moduleName =>
    "Loaded command '".toList ++ command ++ "' from ".toList ++ moduleName
  | notFound command => "No extension found for command '".toList ++ command ++ "'".toList
  | packageMissing package =>
    "Extension package '".toList ++ package ++ "' cannot be imported".toList
  | loadFailed command moduleName reason => (Fault.load command moduleName reason).message
  | bound command operation => "Bound ".toList ++ command ++ '.' :: operation
  | rejectedCall callText reason =>
    "Invalid command syntax: ".toList ++ (Fault.rejectedCall callText reason).message
  | reported command text =>
    "Command '".toList ++ command ++ "' reported an error: ".toList ++ text

end Event

end CommandMarkup
