import CommandMarkup.Calendar.Date
import Mathlib.Algebra.Order.Group.Nat
import Mathlib.Tactic.SplitIfs

/-! The days of the calendar in one row. The years take it up without a gap, and the months do so
with each year, so a day is found by its number in the year. -/
namespace CommandMarkup.Calendar

/-- The number of days of a year. -/
def daysInYear (year : Nat) : Nat := if isLeapYear year then 366 else 365

theorem daysInYear_bounds (year : Nat) : 365 ≤ daysInYear year ∧ daysInYear year ≤ 366 := by
  rw [daysInYear]
  split <;> decide

/-- The rule for leap years in numbers: a year that four divides, unless a hundred divides it and
four hundred does not. -/
theorem isLeapYear_iff (year : Nat) :
    isLeapYear year = true ↔ year % 4 = 0 ∧ (year % 100 ≠ 0 ∨ year % 400 = 0) := by
  simp [isLeapYear]

/-- Each year starts where the one before it ends. -/
theorem daysBeforeYear_succ {year : Nat} (h : 1 ≤ year) :
    daysBeforeYear (year + 1) = daysBeforeYear year + daysInYear year := by
  obtain ⟨past, rfl⟩ := Nat.exists_eq_add_of_le' h
  have hCentury : (past + 1) % 100 = 0 → (past + 1) % 4 = 0 := by omega
  have hFourth : (past + 1) % 400 = 0 → (past + 1) % 100 = 0 := by omega
  have hLess : past / 100 ≤ past := Nat.div_le_self past 100
  simp only [daysBeforeYear, daysInYear, isLeapYear_iff, Nat.add_sub_cancel, Nat.succ_div,
    Nat.dvd_iff_mod_eq_zero]
  -- Only the remainders of the new year matter for what each term gains.
  generalize past / 4 = fours, past / 100 = hundreds, past / 400 = cycles at *
  split_ifs <;> omega

/-- From one year to the next it is 365 or 366 days. -/
theorem daysBeforeYear_succ_bounds {year : Nat} (h : 1 ≤ year) :
    daysBeforeYear year + 365 ≤ daysBeforeYear (year + 1) ∧
      daysBeforeYear (year + 1) ≤ daysBeforeYear year + 366 := by
  have hDays := daysInYear_bounds year
  rw [daysBeforeYear_succ h]
  omega

theorem daysBeforeYear_le {year last : Nat} (h : year ≤ last) :
    daysBeforeYear year ≤ daysBeforeYear last := by
  induction h with
  | refl => exact Nat.le_refl _
  | @step last _ ih =>
      apply Nat.le_trans ih
      cases last with
      | zero => exact Nat.le_refl _
      | succ past =>
          rw [daysBeforeYear_succ (Nat.succ_pos past)]
          exact Nat.le_add_right _ _

/-- Later months have at least as many days before them. This holds of the months beyond the twelfth
too, which have no days of their own. -/
theorem daysBeforeMonth_le (year : Nat) {month last : Nat} (h : month ≤ last) :
    daysBeforeMonth year month ≤ daysBeforeMonth year last := by
  induction h with
  | refl => exact Nat.le_refl _
  | step _ ih => exact Nat.le_trans ih (Nat.le_add_right _ _)

/-- The months take up the whole year. -/
theorem daysBeforeMonth_thirteen (year : Nat) : daysBeforeMonth year 13 = daysInYear year := by
  simp only [daysBeforeMonth, daysInMonth, daysInYear]
  split <;> rfl

namespace Date

theorem yearDay_pos (d : Date) : 1 ≤ d.yearDay := by
  have := d.isDate.2.2.2.2.1
  rw [yearDay]
  omega

/-- No date lies beyond the end of its year. -/
theorem yearDay_le (d : Date) : d.yearDay ≤ daysInYear d.year := by
  obtain ⟨_, _, _, hLast, _, hDay⟩ := d.isDate
  have hMonth : daysBeforeMonth d.year (d.month + 1) ≤ daysBeforeMonth d.year 13 :=
    daysBeforeMonth_le d.year (Nat.succ_le_succ hLast)
  rw [daysBeforeMonth, daysBeforeMonth_thirteen] at hMonth
  rw [yearDay]
  omega

/-- A day lies between the start of its year and that of the next. -/
theorem ordinal_bounds (d : Date) :
    daysBeforeYear d.year < d.ordinal ∧ d.ordinal ≤ daysBeforeYear (d.year + 1) := by
  have hPos := d.yearDay_pos
  have hLe := d.yearDay_le
  rw [daysBeforeYear_succ d.isDate.1, ordinal]
  omega

/-- The months before a day are passed one after the other, and then the day is left. -/
theorem splitYearDay_eq {year month day : Nat} (hPos : 1 ≤ day)
    (hDay : day ≤ daysInMonth year month) (remaining first : Nat) (hFirst : first ≤ month)
    (hRemaining : month ≤ first + remaining) :
    splitYearDay year remaining first
      (daysBeforeMonth year month - daysBeforeMonth year first + day) = (month, day) := by
  induction remaining generalizing first with
  | zero =>
      obtain rfl : first = month := by omega
      rw [Nat.sub_self, Nat.zero_add]
      rfl
  | succ remaining ih =>
      rcases Nat.eq_or_lt_of_le hFirst with rfl | hLess
      · rw [Nat.sub_self, Nat.zero_add, splitYearDay, if_pos hDay]
      · have hPassed : daysBeforeMonth year first + daysInMonth year first ≤
            daysBeforeMonth year month := daysBeforeMonth_le year hLess
        have hRest : daysBeforeMonth year month - daysBeforeMonth year first + day -
              daysInMonth year first =
            daysBeforeMonth year month - daysBeforeMonth year (first + 1) + day := by
          rw [daysBeforeMonth]
          omega
        rw [splitYearDay, if_neg (by omega), hRest]
        exact ih (first + 1) hLess (by omega)

/-- A day is found by its number in its year. -/
theorem ofYearDay?_yearDay (d : Date) : ofYearDay? d.year d.yearDay = some d := by
  obtain ⟨year, month, day, h⟩ := d
  obtain ⟨_, _, hMonth, hLast, hDay, hEnd⟩ := id h
  have hSplit := splitYearDay_eq hDay hEnd 12 1 hMonth (by omega)
  have hStart : daysBeforeMonth year 1 = 0 := rfl
  rw [hStart, Nat.sub_zero] at hSplit
  rw [ofYearDay?, yearDay, hSplit]
  exact dif_pos h

/-- A day is found by its number among all days from its year and from the years beside it. -/
theorem ofOrdinalNear?_ordinal (d : Date) {year : Nat} (hBefore : year ≤ d.year + 1)
    (hAfter : d.year ≤ year + 1) :
    ofOrdinalNear? year d.ordinal = some d := by
  obtain ⟨hStart, hEnd⟩ := d.ordinal_bounds
  have hNumber : d.ordinal - daysBeforeYear d.year = d.yearDay := Nat.add_sub_cancel_left _ _
  have hNext : daysBeforeYear year ≤ daysBeforeYear (year + 1) := daysBeforeYear_le (by omega)
  rw [ofOrdinalNear?]
  rcases Nat.lt_trichotomy d.year year with hLess | hSame | hMore
  · obtain rfl : year = d.year + 1 := by omega
    rw [if_pos hEnd, Nat.add_sub_cancel, hNumber, ofYearDay?_yearDay]
  · subst hSame
    rw [if_neg (by omega), if_neg (by omega), hNumber, ofYearDay?_yearDay]
  · have hAfter : d.year = year + 1 := by omega
    rw [hAfter] at hStart hNumber
    rw [if_neg (by omega), if_pos hStart, hNumber, ← hAfter, ofYearDay?_yearDay]

end Date

end CommandMarkup.Calendar
