import CommandMarkup.Calendar.Directive
import CommandMarkup.Calendar.Moment

/-!
Writing moments by a pattern, with English names. What is no directive is written as it is, and so
is a directive that nothing is known of.
-/

namespace CommandMarkup.Calendar

/-- The names of the days from Monday on. -/
def dayNames : List Text :=
  ["Monday", "Tuesday", "Wednesday", "Thursday", "Friday", "Saturday", "Sunday"].map String.toList

/-- The names of the months. -/
def monthNames : List Text :=
  ["January", "February", "March", "April", "May", "June", "July", "August", "September",
    "October", "November", "December"].map String.toList

namespace Offset

/-- The sign of the offset. -/
def sign (o : Offset) : Char := if o.behind then '-' else '+'

/-- A number of exactly two digits. -/
def two (n : Nat) : Text := Directive.padLeft '0' 2 (Text.ofNat n)

/-- A number of exactly six digits. -/
def six (n : Nat) : Text := Directive.padLeft '0' 6 (Text.ofNat n)

/-- Hours, minutes, and seconds with a fraction if there are any, with `separator` between the
hours, minutes and seconds. -/
def digits (separator : Text) (o : Offset) : Text :=
  let base := o.sign :: two o.hours ++ separator ++ two o.minutes
  if o.microseconds ≠ 0 then
    base ++ separator ++ two o.seconds ++ '.' :: six o.microseconds
  else if o.seconds ≠ 0 then base ++ separator ++ two o.seconds
  else base

/-- The name of the time zone with the offset. -/
def name (o : Offset) : Text :=
  if o.amount = 0 then "UTC".toList else "UTC".toList ++ digits [':'] o

end Offset

namespace Moment

/-- The pattern with the offset, the name of the zone and the microseconds written into it. -/
def fillIn (m : Moment) : Text → Text
  | [] => []
  | [c] => [c]
  | c :: d :: t =>
    if c = '%' then
      if d = 'z' then (m.offset.map (Offset.digits [])).getD [] ++ fillIn m t
      else if d = 'Z' then (m.offset.map Offset.name).getD [] ++ fillIn m t
      else if d = 'f' then Offset.six m.time.microsecond ++ fillIn m t
      else c :: d :: fillIn m t
    else c :: fillIn m (d :: t)

/-- The hour on a clock of twelve hours. -/
def clockHour (m : Moment) : Nat := if m.time.hour % 12 = 0 then 12 else m.time.hour % 12

/-- The half of the day. -/
def half (m : Moment) : Text := if m.time.hour < 12 then "AM".toList else "PM".toList

/-- The seconds from the start of 1970, time zones left out of account. -/
def epochSeconds (m : Moment) : Int :=
  ((m.date.ordinal : Int) - 719163) * 86400
    + (m.time.hour * 3600 + m.time.minute * 60 + m.time.second : Nat)

/-- The seconds from the start of 1970 in figures, with a minus sign if that is still to come. -/
def epochFigures (m : Moment) : Text :=
  let figures := Text.ofNat m.epochSeconds.natAbs
  if m.epochSeconds < 0 then '-' :: figures else figures

/-- The name of the day. -/
def dayName (m : Moment) : Text := dayNames.getD m.date.weekday []

/-- The name of the month. -/
def monthName (m : Moment) : Text := monthNames.getD (m.date.month - 1) []

/-- The conversions that the modifiers `E` and `O` go with. -/
def allowsModifier (modifier conversion : Char) : Bool :=
  if modifier = 'E' then "cnprstuxyzCPRTXYZ%".toList.contains conversion
  else "bdeghjklmnprstuwyzBCGHIMPRSTUVWZ%".toList.contains conversion

/-- A name, in upper case if one of the flags for it is set. -/
def writeName (d : Directive) (t : Text) : Text :=
  d.pad (if d.upper || d.swapCase then t.map Char.toUpper else t)

/-- What a conversion writes that is put together from no other ones. The offset and the name of
the zone stand in the pattern already where `fillIn` has found them. A directive for the name that
it passes over, with a flag or a width, writes the empty name, which takes the room of the width
under every flag. -/
def writeSimple? (m : Moment) (d : Directive) : (conversion : Char) → Option Text
  | '%' => d.pad ['%']
  | 'a' => writeName d (m.dayName.take 3)
  | 'A' => writeName d m.dayName
  | 'b' | 'h' => writeName d (m.monthName.take 3)
  | 'B' => writeName d m.monthName
  | 'C' => d.number 1 .zeros (m.date.year / 100)
  | 'd' => d.number 2 .zeros m.date.day
  | 'e' => d.number 2 .spaces m.date.day
  | 'g' => d.number 2 .zeros (m.date.weekYear % 100)
  | 'G' => d.number 1 .zeros m.date.weekYear
  | 'H' => d.number 2 .zeros m.time.hour
  | 'I' => d.number 2 .zeros m.clockHour
  | 'j' => d.number 3 .zeros m.date.yearDay
  | 'k' => d.number 2 .spaces m.time.hour
  | 'l' => d.number 2 .spaces m.clockHour
  | 'm' => d.number 2 .zeros m.date.month
  | 'M' => d.number 2 .zeros m.time.minute
  | 'n' => d.pad ['\n']
  | 'p' => d.pad (if d.swapCase then m.half.map Char.toLower else m.half)
  | 'P' => d.pad (m.half.map Char.toLower)
  | 's' => d.pad m.epochFigures
  | 'S' => d.number 2 .zeros m.time.second
  | 't' => d.pad ['\t']
  | 'u' => d.number 1 .zeros (m.date.weekday + 1)
  | 'U' => d.number 2 .zeros m.date.sundayWeek
  | 'V' => d.number 2 .zeros m.date.week
  | 'w' => d.number 1 .zeros ((m.date.weekday + 1) % 7)
  | 'W' => d.number 2 .zeros m.date.mondayWeek
  | 'y' => d.number 2 .zeros (m.date.year % 100)
  | 'Y' => d.number 1 .zeros m.date.year
  | 'z' => some []
  | 'Z' => d.pad []
  | _ => none

/-- The conversions that a conversion is put together from, with the text between them. -/
def composition : (conversion : Char) → Option Text
  | 'c' => some "%a %b %e %H:%M:%S %Y".toList
  | 'D' | 'x' => some "%m/%d/%y".toList
  | 'F' => some "%Y-%m-%d".toList
  | 'r' => some "%I:%M:%S %p".toList
  | 'R' => some "%H:%M".toList
  | 'T' | 'X' => some "%H:%M:%S".toList
  | _ => none

/-- Writes the simple conversions in a text; none of them has a flag. -/
def writeParts (m : Moment) : Text → Text
  | [] => []
  | [c] => [c]
  | c :: d :: t =>
    if c = '%' then (m.writeSimple? {} d).getD [] ++ writeParts m t else c :: writeParts m (d :: t)

/-- Writes out a directive that nothing is known of, in upper case if a flag asks for it. With the
letters of the short month names the flag for the other case asks for upper case as well. -/
def writeUnknown (d : Directive) : Text :=
  let shortMonth := d.conversion.any fun c => c = 'b' || c = 'h'
  d.pad (Directive.capitals { d with upper := d.upper || d.swapCase && shortMonth } d.source)

/-- What a directive writes. -/
def writeDirective (m : Moment) (d : Directive) : Text :=
  match d.conversion with
  | none => writeUnknown d
  | some conversion =>
    if d.modifier.all fun modifier => allowsModifier modifier conversion then
      match composition conversion with
      | some parts => d.pad (d.capitals (writeParts m parts))
      | none => (m.writeSimple? d conversion).getD (writeUnknown d)
    else writeUnknown d

/-- Writes a moment by a pattern in which no width exceeds `limit`; a greater one counts as
`limit`. -/
def write (m : Moment) (limit : Nat) (pattern : Text) : Text :=
  match pattern with
  | [] => []
  | '%' :: t =>
    let read := Directive.read t
    m.writeDirective { read.1 with width := min read.1.width limit } ++ write m limit read.2
  | c :: t => c :: write m limit t
termination_by pattern.length
decreasing_by
  · have := Directive.read_length t
    simp only [List.length_cons]
    omega
  · simp

/-- The room for what a pattern of that length writes: a multiple of 1024 by a power of two that
leaves at least 256 places for each character. At most `doublings` more are tried. -/
def room (length : Nat) : (doublings size : Nat) → Nat
  | 0, size => size
  | doublings + 1, size => if 256 * length ≤ size then size else room length doublings (2 * size)

/-- The moment by a pattern, which ends at its first null character. A result without room is left
out altogether. -/
def format (m : Moment) (pattern : Text) : Text :=
  let filled := m.fillIn (pattern.takeWhile fun c => c != '\x00')
  let limit := room filled.length filled.length 1024
  let result := m.write limit filled
  if result.length < limit then result else []

end Moment

end CommandMarkup.Calendar
