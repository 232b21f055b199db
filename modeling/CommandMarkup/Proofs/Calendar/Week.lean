import CommandMarkup.Proofs.Calendar.Ordinal

/-! The weeks of a year. Its first one starts on a Monday no more than three days from the first of
January, so every day lies in a week of its own year or of one beside it, and year, week and day of
the week lead back to the day.

Main statements: `isWeekDate`, `ofWeek?_week`. -/
namespace CommandMarkup.Calendar

/-- The first week of a year starts on a Monday near the first of January. -/
theorem firstMonday_near (year : Nat) :
    firstMonday year % 7 = 1 ∧ daysBeforeYear year < firstMonday year + 3 ∧
      firstMonday year ≤ daysBeforeYear year + 4 := by
  rw [firstMonday]
  split <;> omega

/-- The weeks of a year take up the days until the first week of the next one. -/
theorem firstMonday_succ {year : Nat} (h : 1 ≤ year) :
    firstMonday (year + 1) = firstMonday year + 7 * weeksInYear year := by
  have hFirst := firstMonday_near year
  have hNext := firstMonday_near (year + 1)
  have hDays := daysBeforeYear_succ_bounds h
  rw [weeksInYear]
  omega

/-- The first of January 10000 would be a Saturday, so the weeks of that year start after it. -/
theorem firstMonday_last : daysBeforeYear 10000 < firstMonday 10000 := by decide

/-- The first of January 1000 is a Wednesday. -/
theorem firstMonday_thousand : firstMonday 1000 ≤ daysBeforeYear 1000 + 1 := by decide

namespace Date

/-- Where the week of a day lies: in a year that there is, and in its own year or in one beside it,
with the day after the start of that year's weeks and before the start of the next year's. -/
theorem weekYear_spec (d : Date) : 1 ≤ d.weekYear ∧ d.weekYear ≤ 9999 ∧
    d.weekYear ≤ d.year + 1 ∧ d.year ≤ d.weekYear + 1 ∧
      firstMonday d.weekYear ≤ d.ordinal ∧ d.ordinal < firstMonday (d.weekYear + 1) := by
  obtain ⟨hStart, hEnd⟩ := d.ordinal_bounds
  obtain ⟨hYear, hLast, _⟩ := d.isDate
  rw [weekYear]
  split
  · next hBefore =>
    -- The year 1 starts with a Monday, so there is a year before.
    have hMore : d.year ≠ 1 := by
      intro hOne
      rw [hOne] at hBefore hStart
      have hFirst : firstMonday 1 ≤ daysBeforeYear 1 + 1 := by decide
      omega
    obtain ⟨past, hPast⟩ : ∃ past, d.year = past + 1 := ⟨d.year - 1, by omega⟩
    have hNear := firstMonday_near past
    have hDays := daysBeforeYear_succ_bounds (by omega : 1 ≤ past)
    rw [hPast] at hStart hBefore ⊢
    rw [Nat.add_sub_cancel]
    omega
  · split
    · next hNotBefore hAfter =>
      have hEarly : d.year ≠ 9999 := by
        intro hSame
        rw [hSame] at hAfter hEnd
        have hSaturday : daysBeforeYear (9999 + 1) < firstMonday (9999 + 1) := firstMonday_last
        omega
      have hNear := firstMonday_near (d.year + 1 + 1)
      have hDays := daysBeforeYear_succ_bounds (by omega : 1 ≤ d.year + 1)
      omega
    · omega

/-- A date in a year of four digits lies in a week of such a year: the first week of the year 1000
starts before it. -/
theorem weekYear_thousand (d : Date) (h : 1000 ≤ d.year) : 1000 ≤ d.weekYear := by
  obtain ⟨_, _, _, hYear, _, hNext⟩ := d.weekYear_spec
  by_cases hSame : d.year = 1000
  · have hStart := d.ordinal_bounds.1
    by_contra hLess
    have hBefore : d.weekYear + 1 = 1000 := by omega
    rw [hBefore] at hNext
    rw [hSame] at hStart
    have := firstMonday_thousand
    omega
  · omega

theorem weekday_le (d : Date) : d.weekday ≤ 6 := Nat.le_of_lt_succ (Nat.mod_lt _ (by decide))

/-- The week of a date is one of its year, and the first Monday of that year, the weeks and the day
of the week add up to the date. -/
theorem week_spec (d : Date) : 1 ≤ d.week ∧ d.week ≤ weeksInYear d.weekYear ∧
    firstMonday d.weekYear + 7 * (d.week - 1) + d.weekday = d.ordinal := by
  obtain ⟨hYear, _, _, _, hStart, hEnd⟩ := d.weekYear_spec
  have hMonday := (firstMonday_near d.weekYear).1
  rw [firstMonday_succ hYear] at hEnd
  rw [week, weekday]
  omega

theorem week_lt (d : Date) : d.week < 100 := by
  obtain ⟨hYear, _⟩ := d.weekYear_spec
  have hWeek := d.week_spec.2.1
  have hFirst := firstMonday_near d.weekYear
  have hNext := firstMonday_near (d.weekYear + 1)
  have hWeeks := firstMonday_succ hYear
  have hDays := daysBeforeYear_succ_bounds hYear
  omega

/-- A day is found by its week and its day of the week. -/
theorem ofWeek?_week (d : Date) : ofWeek? d.weekYear d.week (d.weekday + 1) = some d := by
  obtain ⟨hYear, hLast, hAfter, hBefore, _⟩ := d.weekYear_spec
  obtain ⟨hWeek, hWeeks, hNumber⟩ := d.week_spec
  have hDay := d.weekday_le
  rw [ofWeek?, if_pos (by omega), Nat.add_sub_cancel, hNumber]
  exact d.ofOrdinalNear?_ordinal hAfter hBefore

/-- The week date of a day. Its week starts on Monday, 1, and belongs to the year that has the
Thursday of the week in it; the weeks of a year are those of its Thursdays, counted from one. -/
structure IsWeekDate (d : Date) (year week day : Nat) : Prop where
  onDay : 1 ≤ day ∧ day ≤ 7 ∧ d.ordinal % 7 = day % 7
  inYear : daysBeforeYear year < d.ordinal - day + 4 ∧
    d.ordinal - day + 4 ≤ daysBeforeYear (year + 1)
  inWeek : 7 * week < d.ordinal - day + 4 - daysBeforeYear year + 7 ∧
    d.ordinal - day + 4 - daysBeforeYear year ≤ 7 * week

/-- Every date is written by the week that it is in. -/
theorem isWeekDate (d : Date) : IsWeekDate d d.weekYear d.week (d.weekday + 1) := by
  obtain ⟨_, _, _, _, hStart, hEnd⟩ := d.weekYear_spec
  obtain ⟨hWeek, _, hNumber⟩ := d.week_spec
  have hFirst := firstMonday_near d.weekYear
  have hNext := firstMonday_near (d.weekYear + 1)
  have hLast := d.weekday_le
  constructor <;> omega

/-- A day has no other week date. -/
theorem IsWeekDate.eq {d : Date} {year week day : Nat} (h : IsWeekDate d year week day) :
    year = d.weekYear ∧ week = d.week ∧ day = d.weekday + 1 := by
  have hOwn := d.isWeekDate
  have hDay : day = d.weekday + 1 := by
    have hGiven := h.onDay
    have hComputed := hOwn.onDay
    omega
  subst hDay
  -- The years do not overlap, so only one of them has the Thursday.
  have hYear : year = d.weekYear := by
    have hGiven := h.inYear
    have hComputed := hOwn.inYear
    by_contra hOther
    rcases Nat.lt_or_gt_of_ne hOther with hLess | hMore
    · have hApart : daysBeforeYear (year + 1) ≤ daysBeforeYear d.weekYear :=
        daysBeforeYear_le hLess
      omega
    · have hApart : daysBeforeYear (d.weekYear + 1) ≤ daysBeforeYear year :=
        daysBeforeYear_le hMore
      omega
  subst hYear
  have hGiven := h.inWeek
  have hComputed := hOwn.inWeek
  omega

/-- The last day of the year 2024 lies in the first week of 2025. -/
example : ofWeek? 2025 1 2 = of? 2024 12 31 := by decide

end Date

end CommandMarkup.Calendar
