import CommandMarkup.Text.Case

/-!
The directives of a date pattern: a percent sign, flags, a width, a modifier, and the character
that says what is written.
-/

namespace CommandMarkup.Calendar

/-- How a number is filled up to its width. -/
inductive Padding where
  | none
  | spaces
  | zeros
  deriving DecidableEq

/-- A directive as it is read. Without a padding flag each directive has its own way. -/
structure Directive where
  padding : Option Padding := .none
  upper : Bool := false
  swapCase : Bool := false
  width : Nat := 0
  modifier : Option Char := .none
  conversion : Option Char := .none
  /-- The directive as the pattern writes it. -/
  source : Text := []
  deriving DecidableEq

namespace Directive

/-- The padding that a flag asks for. -/
def paddingOf? (c : Char) : Option Padding :=
  if c = '-' then some .none
  else if c = '_' then some .spaces
  else if c = '0' then some .zeros
  else Option.none

/-- Reads flags; the last padding flag counts. -/
def readFlags (d : Directive) : Text → Directive × Text
  | [] => (d, [])
  | c :: t =>
    if (paddingOf? c).isSome then
      readFlags { d with padding := paddingOf? c, source := d.source ++ [c] } t
    else if c = '^' then readFlags { d with upper := true, source := d.source ++ [c] } t
    else if c = '#' then readFlags { d with swapCase := true, source := d.source ++ [c] } t
    else (d, c :: t)

/-- Reads the digits of a width. -/
def readWidth (d : Directive) : Text → Directive × Text
  | [] => (d, [])
  | c :: t =>
    if c.isDigit then
      readWidth
        { d with width := 10 * d.width + (c.toNat - '0'.toNat), source := d.source ++ [c] } t
    else (d, c :: t)

/-- Reads a modifier, if there is one. -/
def readModifier (d : Directive) : Text → Directive × Text
  | [] => (d, [])
  | c :: t =>
    if c = 'E' ∨ c = 'O' then ({ d with modifier := some c, source := d.source ++ [c] }, t)
    else (d, c :: t)

/-- Reads the character that says what is written. The end of the pattern may come before it. -/
def readConversion (d : Directive) : Text → Directive × Text
  | [] => (d, [])
  | c :: t => ({ d with conversion := some c, source := d.source ++ [c] }, t)

/-- Reads a directive after its percent sign. -/
def read (t : Text) : Directive × Text :=
  let (d, t) := readFlags { source := ['%'] } t
  let (d, t) := readWidth d t
  let (d, t) := readModifier d t
  readConversion d t

theorem readFlags_length (d : Directive) (t : Text) : (readFlags d t).2.length ≤ t.length := by
  induction t generalizing d with
  | nil => exact Nat.le_refl _
  | cons c t ih =>
    simp only [readFlags]
    split
    · exact Nat.le_succ_of_le (ih _)
    · split
      · exact Nat.le_succ_of_le (ih _)
      · split
        · exact Nat.le_succ_of_le (ih _)
        · exact Nat.le_refl _

theorem readWidth_length (d : Directive) (t : Text) : (readWidth d t).2.length ≤ t.length := by
  induction t generalizing d with
  | nil => exact Nat.le_refl _
  | cons c t ih =>
    simp only [readWidth]
    split
    · exact Nat.le_succ_of_le (ih _)
    · exact Nat.le_refl _

theorem readModifier_length (d : Directive) (t : Text) :
    (readModifier d t).2.length ≤ t.length := by
  fun_cases readModifier d t <;> simp

theorem readConversion_length (d : Directive) (t : Text) :
    (readConversion d t).2.length ≤ t.length := by
  fun_cases readConversion d t <;> simp

theorem read_length (t : Text) : (read t).2.length ≤ t.length :=
  Nat.le_trans (readConversion_length _ _) (Nat.le_trans (readModifier_length _ _)
    (Nat.le_trans (readWidth_length _ _) (readFlags_length _ _)))

/-- The text with `fill` before it, up to a length of `width`. -/
def padLeft (fill : Char) (width : Nat) (t : Text) : Text :=
  List.replicate (width - t.length) fill ++ t

theorem length_padLeft (fill : Char) (width : Nat) (t : Text) :
    (padLeft fill width t).length = max width t.length := by
  simp only [padLeft, List.length_append, List.length_replicate]
  omega

/-- Fills a text up to the width: with zeros if a flag asks for them, or else with spaces. -/
def pad (d : Directive) (t : Text) : Text :=
  padLeft (if d.padding = some .zeros then '0' else ' ') d.width t

/-- A number of at least `digits` digits, filled up with `own` padding unless a flag asks for
another. -/
def number (d : Directive) (digits : Nat) (own : Padding) (n : Nat) : Text :=
  let figures := Text.ofNat n
  let length := max digits d.width
  match d.padding.getD own with
  | .none => pad d figures
  | .spaces => padLeft ' ' length figures
  | .zeros => padLeft '0' length figures

/-- A text in upper case if a flag asks for it, as far as single characters go. -/
def capitals (d : Directive) (t : Text) : Text := if d.upper then t.map Text.capital else t

end Directive

end CommandMarkup.Calendar
