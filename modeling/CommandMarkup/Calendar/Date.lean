/-!
Dates of the Gregorian calendar from the year 1 to the year 9999, the days counted through, and
the weeks of a year.

A week starts on Monday and belongs to the year that holds its Thursday.
-/

namespace CommandMarkup.Calendar

/-- Every fourth year is a leap year; of the full centuries only every fourth one is. -/
def isLeapYear (year : Nat) : Bool := year % 4 == 0 && (year % 100 != 0 || year % 400 == 0)

/-- The length of a month; months count from one, and no other number is a month. -/
def daysInMonth (year : Nat) : (month : Nat) → Nat
  | 2 => if isLeapYear year then 29 else 28
  | 4 | 6 | 9 | 11 => 30
  | 1 | 3 | 5 | 7 | 8 | 10 | 12 => 31
  | _ => 0

/-- The days of the year before the first of a month. -/
def daysBeforeMonth (year : Nat) : (month : Nat) → Nat
  | 0 => 0
  | month + 1 => daysBeforeMonth year month + daysInMonth year month

/-- The days before the first of January of a year, counted from the first of January 1. -/
def daysBeforeYear (year : Nat) : Nat :=
  let past := year - 1
  past * 365 + past / 4 - past / 100 + past / 400

/-- Whether the three numbers name a day. -/
def IsDate (year month day : Nat) : Prop :=
  1 ≤ year ∧ year ≤ 9999 ∧ 1 ≤ month ∧ month ≤ 12 ∧ 1 ≤ day ∧ day ≤ daysInMonth year month

instance (year month day : Nat) : Decidable (IsDate year month day) := by
  unfold IsDate; infer_instance

/-- A day of the calendar. -/
structure Date where
  year : Nat
  month : Nat
  day : Nat
  isDate : IsDate year month day
  deriving DecidableEq

namespace Date

/-- The date of that year, month and day. -/
def of? (year month day : Nat) : Option Date :=
  if h : IsDate year month day then some ⟨year, month, day, h⟩ else none

/-- The number of the day in its year, from one. -/
def yearDay (d : Date) : Nat := daysBeforeMonth d.year d.month + d.day

/-- The number of the day, where the first of January 1 is day one. -/
def ordinal (d : Date) : Nat := daysBeforeYear d.year + d.yearDay

/-- The day of the week from Monday, 0, to Sunday, 6. The first of January 1 is a Monday. -/
def weekday (d : Date) : Nat := (d.ordinal + 6) % 7

/-- The month and the day in it, for the `day`-th day after the months before `month`. At most
`remaining` more months are passed. -/
def splitYearDay (year : Nat) : (remaining month day : Nat) → Nat × Nat
  | 0, month, day => (month, day)
  | remaining + 1, month, day =>
    if day ≤ daysInMonth year month then (month, day)
    else splitYearDay year remaining (month + 1) (day - daysInMonth year month)

/-- The date with that number in its year. -/
def ofYearDay? (year number : Nat) : Option Date :=
  of? year (splitYearDay year 12 1 number).1 (splitYearDay year 12 1 number).2

end Date

/-- The number of the Monday that starts the first week of a year: the week of the first of
January, if that is a Thursday at the latest, or else the next one. -/
def firstMonday (year : Nat) : Nat :=
  let newYear := daysBeforeYear year + 1
  let weekday := (newYear + 6) % 7
  if weekday ≤ 3 then newYear - weekday else newYear + 7 - weekday

/-- How many weeks belong to a year. -/
def weeksInYear (year : Nat) : Nat := (firstMonday (year + 1) - firstMonday year) / 7

namespace Date

/-- The year that the week of the day belongs to. -/
def weekYear (d : Date) : Nat :=
  if d.ordinal < firstMonday d.year then d.year - 1
  else if firstMonday (d.year + 1) ≤ d.ordinal then d.year + 1
  else d.year

/-- The number of the week in its year, from one. -/
def week (d : Date) : Nat := (d.ordinal - firstMonday d.weekYear) / 7 + 1

/-- The date with that number among all days, if it lies in the year before, in that year, or in the
year after. -/
def ofOrdinalNear? (year number : Nat) : Option Date :=
  if number ≤ daysBeforeYear year then ofYearDay? (year - 1) (number - daysBeforeYear (year - 1))
  else if daysBeforeYear (year + 1) < number then
    ofYearDay? (year + 1) (number - daysBeforeYear (year + 1))
  else ofYearDay? year (number - daysBeforeYear year)

/-- The date of a day, counted from Monday, 1, of a week of a year. -/
def ofWeek? (year week day : Nat) : Option Date :=
  if 1 ≤ year ∧ year ≤ 9999 ∧ 1 ≤ week ∧ week ≤ weeksInYear year ∧ 1 ≤ day ∧ day ≤ 7 then
    ofOrdinalNear? year (firstMonday year + 7 * (week - 1) + (day - 1))
  else none

/-- The number of the week when weeks start on Sunday and the first one holds the first Sunday of
the year; the days before it are in week zero. -/
def sundayWeek (d : Date) : Nat := (d.yearDay + 6 - (d.weekday + 1) % 7) / 7

/-- The same for weeks that start on Monday. -/
def mondayWeek (d : Date) : Nat := (d.yearDay + 6 - d.weekday) / 7

end Date

end CommandMarkup.Calendar
