import CommandMarkup.Table
import CommandMarkup.Text.Basic

/-!
Structured values: what settings are read from, what a handler prepares, and what it renders.
-/

namespace CommandMarkup

/-- A value of one of the kinds that can be stored and read back. A decimal number is a sign and a
mantissa times a power of ten. The keys of an object come in order. -/
inductive Value where
  | null
  | bool (b : Bool)
  | int (n : Int)
  | decimal (negative : Bool) (mantissa : Nat) (exponent : Int)
  | text (t : Text)
  | list (items : List Value)
  | object (fields : List (Text × Value))

namespace Value

/-- The name that messages give to the kind of the value. -/
def kindName : Value → Text
  | null => "NoneType".toList
  | bool _ => "bool".toList
  | int _ => "int".toList
  | decimal _ _ _ => "float".toList
  | text _ => "str".toList
  | list _ => "list".toList
  | object _ => "dict".toList

/-- A blank value stands for no output: null, false, zero, and whatever is empty. -/
def isBlank : Value → Bool
  | null => true
  | bool b => !b
  | int n => n == 0
  | decimal _ mantissa _ => mantissa == 0
  | text t => t.isEmpty
  | list items => items.isEmpty
  | object fields => fields.isEmpty

/-- The field of an object; any other value has none. -/
def field? (name : Text) : Value → Option Value
  | object fields => Table.find? name fields
  | _ => none

end Value

end CommandMarkup
