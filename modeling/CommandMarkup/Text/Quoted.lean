import CommandMarkup.Text.Printable

/-!
Quoted texts, as messages show them: between quotation marks, with what cannot be printed written
as an escape.
-/

namespace CommandMarkup.Text

/-- The last `width` hexadecimal digits of a number, in lower case. -/
def hexDigits : (width : Nat) → Nat → Text
  | 0, _ => []
  | width + 1, n => hexDigits width (n / 16) ++ [Nat.digitChar (n % 16)]

/-- An escape with the shortest of two, four and eight hexadecimal digits. -/
def hexEscape (c : Char) : Text :=
  if c.toNat < 0x100 then '\\' :: 'x' :: hexDigits 2 c.toNat
  else if c.toNat < 0x10000 then '\\' :: 'u' :: hexDigits 4 c.toNat
  else '\\' :: 'U' :: hexDigits 8 c.toNat

/-- A single quotation mark, unless the text holds one and no double mark. -/
def quotationMark (t : Text) : Char :=
  if '\'' ∈ t ∧ '"' ∉ t then '"' else '\''

/-- One character between quotation marks `mark`. -/
def quoteChar (mark c : Char) : Text :=
  if c = mark ∨ c = '\\' then ['\\', c]
  else if c = '\n' then ['\\', 'n']
  else if c = '\r' then ['\\', 'r']
  else if c = '\t' then ['\\', 't']
  else if isPrintable c then [c]
  else hexEscape c

/-- The text between quotation marks. -/
def quote (t : Text) : Text :=
  let mark := quotationMark t
  mark :: t.flatMap (quoteChar mark) ++ [mark]

end CommandMarkup.Text
