import CommandMarkup.Calendar.Date

/-!
Moments: a date with a time of day and, perhaps, an offset from universal time.
-/

namespace CommandMarkup.Calendar

/-- A time of day, to the microsecond. -/
structure TimeOfDay where
  hour : Nat
  minute : Nat
  second : Nat
  microsecond : Nat
  inDay : hour < 24 ∧ minute < 60 ∧ second < 60 ∧ microsecond < 1000000
  deriving DecidableEq

namespace TimeOfDay

/-- The time of those parts. -/
def of? (hour minute second microsecond : Nat) : Option TimeOfDay :=
  if h : hour < 24 ∧ minute < 60 ∧ second < 60 ∧ microsecond < 1000000 then
    some ⟨hour, minute, second, microsecond, h⟩
  else none

/-- The start of a day. -/
def midnight : TimeOfDay := ⟨0, 0, 0, 0, by decide⟩

end TimeOfDay

/-- How far local time is ahead of universal time: less than a day, in microseconds. Behind, if
`behind` is set. -/
structure Offset where
  behind : Bool
  amount : Nat
  inDay : amount < 24 * 60 * 60 * 1000000
  deriving DecidableEq

namespace Offset

/-- Universal time itself. -/
def zero : Offset := ⟨false, 0, by decide⟩

/-- The offset of that many seconds and microseconds. Less than a second counts as none. -/
def of? (behind : Bool) (seconds microseconds : Nat) : Option Offset :=
  if seconds = 0 then some zero
  else if h : seconds * 1000000 + microseconds < 24 * 60 * 60 * 1000000 then
    some ⟨behind, seconds * 1000000 + microseconds, h⟩
  else none

/-- The whole hours. -/
def hours (o : Offset) : Nat := o.amount / 3600000000

/-- The minutes beyond the hours. -/
def minutes (o : Offset) : Nat := o.amount / 60000000 % 60

/-- The seconds beyond the minutes. -/
def seconds (o : Offset) : Nat := o.amount / 1000000 % 60

/-- The microseconds beyond the seconds. -/
def microseconds (o : Offset) : Nat := o.amount % 1000000

end Offset

/-- A point in time as a calendar and a clock show it. -/
structure Moment where
  date : Date
  time : TimeOfDay
  offset : Option Offset := none
  deriving DecidableEq

end CommandMarkup.Calendar
