import CommandMarkup.Table
import CommandMarkup.Text.Basic

/-!
Calls: the name of a command with its parameters, and the index that looks parameters up by key.

Main statement: the index of two parameter lists in a row is the first index with the entries of
the second put in (`index_append`).
-/

namespace CommandMarkup

/-- A parameter is a value alone or a value assigned to a name; the assigned value may be empty. -/
inductive Parameter where
  | bare (value : Text)
  | assignment (name value : Text)
  deriving DecidableEq

namespace Parameter

/-- What the index finds the parameter by: the name, or the bare value itself. -/
def key : Parameter → Text
  | bare value => value
  | assignment name _ => name

/-- What the index holds under the key; a bare value stands for the empty text. -/
def indexValue : Parameter → Text
  | bare _ => []
  | assignment _ value => value

/-- The parameter as a call writes it. -/
def toText : Parameter → Text
  | bare value => value
  | assignment name value => name ++ '=' :: value

/-- The lookup map of a parameter list: a later parameter overwrites an earlier one with its key,
which stays at its place. -/
def index (parameters : List Parameter) : Table Text Text :=
  Table.ofEntries (parameters.map fun p => (p.key, p.indexValue))

theorem index_append (ps qs : List Parameter) :
    index (ps ++ qs) = qs.foldl (fun table q => table.put q.key q.indexValue) (index ps) := by
  simp [index, Table.ofEntries, List.foldl_map]

end Parameter

/-- A command name with the parameters in the order of their occurrence. -/
structure Call where
  name : Text
  parameters : List Parameter := []
  deriving DecidableEq

namespace Call

/-- The lookup map of the parameters. -/
def index (call : Call) : Table Text Text := Parameter.index call.parameters

/-- The call as it is written: a question mark sets off the parameters, ampersands part them. -/
def toText (call : Call) : Text :=
  match call.parameters with
  | [] => call.name
  | ps => call.name ++ '?' :: Text.join '&' (ps.map Parameter.toText)

end Call

end CommandMarkup
