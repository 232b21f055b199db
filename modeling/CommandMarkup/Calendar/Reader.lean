import CommandMarkup.Calendar.Moment
import CommandMarkup.Text.Digit

/-!
Reading moments in the ISO 8601 style. A date is written with hyphens or without, by month and day
or by week and, perhaps, day of the week. A time may follow after one character of any kind, with
colons or without, and after the time an offset.

    date     ::= YYYY-MM-DD | YYYYMMDD | YYYY-Www(-D)? | YYYYWww(D)?
    clock    ::= HH(:MM(:SS)?)? fraction? | HH(MM(SS)?)? fraction?
    fraction ::= ('.' | ',') d+
    offset   ::= 'Z' | ('+' | '-') clock
    moment   ::= date (any clock offset?)?

Digits are those of ASCII. The reader is laxer than that in three ways. After the seconds a fraction
may go without its mark or, where colons stand between the numbers, have another colon for it.
Before an offset a time may leave something unread: one ASCII character after a number, or whatever
follows a fraction of six digits or more. And at the end of a time or an offset a null character
counts as the end of the text.
-/

namespace CommandMarkup.Calendar

/-- The number in exactly `count` digits, which goes on from `value`, and what follows it. -/
def takeNumber? : (count value : Nat) → Text → Option (Nat × Text)
  | 0, value, t => some (value, t)
  | _ + 1, _, [] => none
  | count + 1, value, c :: t =>
    match Text.asciiDigit? c with
    | some d => takeNumber? count (10 * value + d) t
    | none => none

/-- Whether the text starts with a digit. -/
def startsWithDigit : Text → Bool
  | [] => false
  | c :: _ => (Text.asciiDigit? c).isSome

/-- How many digits the text starts with. -/
def countDigits (t : Text) : Nat := (t.takeWhile fun c => (Text.asciiDigit? c).isSome).length

/-- The day of the week after a week written with hyphens, Monday if there is none. A hyphen that
is followed by one character and then by a digit stands before a time. -/
def takeHyphenDay? : Text → Option (Nat × Text)
  | '-' :: d :: rest =>
    if startsWithDigit rest then some (1, '-' :: d :: rest) else takeNumber? 1 0 (d :: rest)
  | rest => some (1, rest)

/-- The day of the week after a week written without hyphens, Monday if there is none. The digits
of a time come in pairs after the one character before it. So one digit alone is the day, and of
more digits the first is the day if their number is even. -/
def takeDigitDay? (t : Text) : Option (Nat × Text) :=
  let count := countDigits t
  if count = 1 ∨ (count ≠ 0 ∧ count % 2 = 0) then takeNumber? 1 0 t else some (1, t)

/-- The date that the text starts with, and what follows it. -/
def takeDate? (t : Text) : Option (Date × Text) :=
  match takeNumber? 4 0 t with
  | none => none
  | some (year, '-' :: 'W' :: rest) =>
    match takeNumber? 2 0 rest with
    | none => none
    | some (week, rest) =>
      match takeHyphenDay? rest with
      | none => none
      | some (day, rest) => (Date.ofWeek? year week day).map fun date => (date, rest)
  | some (year, 'W' :: rest) =>
    match takeNumber? 2 0 rest with
    | none => none
    | some (week, rest) =>
      match takeDigitDay? rest with
      | none => none
      | some (day, rest) => (Date.ofWeek? year week day).map fun date => (date, rest)
  | some (year, '-' :: rest) =>
    match takeNumber? 2 0 rest with
    | some (month, '-' :: rest) =>
      match takeNumber? 2 0 rest with
      | some (day, rest) => (Date.of? year month day).map fun date => (date, rest)
      | none => none
    | _ => none
  | some (year, rest) =>
    match takeNumber? 2 0 rest with
    | none => none
    | some (month, rest) =>
      match takeNumber? 2 0 rest with
      | some (day, rest) => (Date.of? year month day).map fun date => (date, rest)
      | none => none

/-- The microseconds in a fraction, and what follows its digits. The first six digits count, and
zeros stand in for what is missing where the text ends. -/
def takeFraction? : (count value : Nat) → Text → Option (Nat × Text)
  | 0, value, t => some (value, t.dropWhile fun c => (Text.asciiDigit? c).isSome)
  | count + 1, value, [] => takeFraction? count (10 * value) []
  | count + 1, value, c :: t =>
    match Text.asciiDigit? c with
    | some d => takeFraction? count (10 * value + d) t
    | none => none

/-- How a time goes on after one of its numbers. -/
inductive Continuation where
  | done (unread : Text)
  | fraction (t : Text)
  | number (t : Text)

/-- How a time goes on that has colons between its numbers or has none. One last ASCII character is
left unread, whatever it is. -/
def continuation? (colons : Bool) : Text → Option Continuation
  | [] => some (.done [])
  | [c] => if Text.isAscii c then some (.done [c]) else none
  | c :: t =>
    if colons = true ∧ c = ':' then some (.number t)
    else if c = '.' ∨ c = ',' then some (.fraction t)
    else if colons then none
    else some (.number (c :: t))

/-- A time as it is written, before it is checked against its limits: its numbers, the hours first
and as many as there are, and its microseconds. -/
structure Clock where
  numbers : List Nat
  microsecond : Nat
  deriving DecidableEq

namespace Clock

/-- The hours. -/
def hour (c : Clock) : Nat := c.numbers.getD 0 0

/-- The minutes, zero if there are none. -/
def minute (c : Clock) : Nat := c.numbers.getD 1 0

/-- The seconds, zero if there are none. -/
def second (c : Clock) : Nat := c.numbers.getD 2 0

/-- The time with another number before the others. -/
def after (number : Nat) (c : Clock) : Clock := { c with numbers := number :: c.numbers }

end Clock

/-- A time of at most `count` numbers, and what it leaves unread. Whatever comes after the last
number it may have is a fraction. -/
def takeNumbers? (colons : Bool) : (count : Nat) → Text → Option (Clock × Text)
  | 0, t => (takeFraction? 6 0 t).map fun (microsecond, unread) => (⟨[], microsecond⟩, unread)
  | count + 1, t =>
    match takeNumber? 2 0 t with
    | none => none
    | some (number, rest) =>
      match continuation? colons rest with
      | none => none
      | some (.done unread) => some (⟨[number], 0⟩, unread)
      | some (.fraction rest) =>
        (takeFraction? 6 0 rest).map fun (microsecond, unread) => (⟨[number], microsecond⟩, unread)
      | some (.number rest) =>
        (takeNumbers? colons count rest).map fun (clock, unread) => (clock.after number, unread)

/-- The time that the text starts with, and what it leaves unread. If there is a colon after the
hours, there is one after the minutes. -/
def takeClock? (t : Text) : Option (Clock × Text) := takeNumbers? (t[2]? = some ':') 3 t

/-- Whether nothing more is to be read. -/
def isOver : Text → Bool
  | [] => true
  | c :: _ => c = '\x00'

/-- Whether an offset can start with the character. -/
def startsOffset (c : Char) : Bool := c = '+' || c = '-' || c = 'Z'

/-- An offset up to the end of the text. -/
def readOffset? : Text → Option Offset
  | [] => none
  | 'Z' :: t => if isOver t then some .zero else none
  | sign :: t =>
    if sign = '+' ∨ sign = '-' then
      match takeClock? t with
      | none => none
      | some (clock, unread) =>
        if isOver unread then
          Offset.of? (sign = '-') (clock.hour * 3600 + clock.minute * 60 + clock.second)
            clock.microsecond
        else none
    else none

/-- A time of day and its offset, up to the end of the text. Before an offset it does not matter
what the time leaves unread. -/
def readTime? (t : Text) : Option (TimeOfDay × Option Offset) :=
  match takeClock? (t.takeWhile fun c => !startsOffset c) with
  | none => none
  | some (clock, unread) =>
    match TimeOfDay.of? clock.hour clock.minute clock.second clock.microsecond,
      t.dropWhile fun c => !startsOffset c with
    | none, _ => none
    | some time, [] => if isOver unread then some (time, none) else none
    | some time, offset => (readOffset? offset).map fun offset => (time, some offset)

/-- A moment that makes up the whole text. -/
def Moment.ofIso? (t : Text) : Option Moment :=
  match takeDate? t with
  | none => none
  | some (date, []) => some { date, time := .midnight }
  | some (date, _ :: rest) => (readTime? rest).map fun (time, offset) => { date, time, offset }

end CommandMarkup.Calendar
