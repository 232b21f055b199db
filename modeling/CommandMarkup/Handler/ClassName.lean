import CommandMarkup.Text.Case

/-!
The name of the class that a command module has to define: the command name in camel case,
followed by `Command`.
-/

namespace CommandMarkup.Handler

/-- Camel case after the first character: an underscore goes, and the character after it is
written in upper case. A line break after it, or the end of the text, leaves it as it is. -/
def camelRest : Text → Text
  | [] => []
  | [c] => [c]
  | c :: d :: rest =>
    if c = '_' ∧ d ≠ '\n' then Text.upperChar d ++ camelRest rest
    else c :: camelRest (d :: rest)

/-- A text in camel case: its first character is written in upper case too. -/
def camel : Text → Text
  | [] => []
  | c :: rest => if c = '\n' then c :: camelRest rest else Text.upperChar c ++ camelRest rest

/-- The class that a module must define to provide the command. -/
def classNameOf (command : Text) : Text := camel command ++ "Command".toList

end CommandMarkup.Handler
