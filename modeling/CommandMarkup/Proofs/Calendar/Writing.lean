import CommandMarkup.Calendar.Format
import CommandMarkup.Proofs.Calendar.Spelling

/-! Writing a date by the patterns that give one of its spellings. Such a pattern has nothing in it
but numbers and the marks between them, and its result has room. A year of less than four digits is
not filled up, so it is the later ones that are written as they are spelled.

Main statement: `spellsDate_format`. -/
namespace CommandMarkup.Calendar

/-- The patterns that write a date in one of its spellings. -/
def datePatterns : List Text :=
  ["%Y-%m-%d", "%Y%m%d", "%G-W%V-%u", "%GW%V%u"].map String.toList

/-- The directive of a conversion alone. -/
def plainDirective (c : Char) : Directive where
  conversion := some c
  source := ['%', c]

namespace Moment

variable {m : Moment}

/-- What is no percent sign is written as it is. -/
theorem write_mark (m : Moment) (limit : Nat) {c : Char} (h : c ≠ '%') (rest : Text) :
    m.write limit (c :: rest) = c :: m.write limit rest := by
  rw [write.eq_def]
  split
  · contradiction
  · next hEq =>
    injection hEq with hc
    exact absurd hc h
  · next hEq =>
    injection hEq with hc hRest
    rw [hc, hRest]

/-- A directive without flags, width and modifier. -/
theorem write_directive {c : Char} {t : Text}
    (hRead : ∀ rest, Directive.read (c :: rest) = (plainDirective c, rest))
    (hWritten : m.writeDirective (plainDirective c) = t) (limit : Nat) (rest : Text) :
    m.write limit ('%' :: c :: rest) = t ++ m.write limit rest := by
  have hWidth : min (plainDirective c).width limit = (plainDirective c).width := Nat.zero_min limit
  rw [write, hRead, hWidth, hWritten]

/-- There is room for a thousand characters in any case. -/
theorem le_room (length doublings size : Nat) : size ≤ room length doublings size := by
  induction doublings generalizing size with
  | zero => exact Nat.le_refl size
  | succ doublings ih =>
      rw [room]
      split
      · exact Nat.le_refl size
      · have := ih (2 * size)
        omega

/-- A pattern that has neither offset nor microseconds in it is written as it stands. -/
theorem format_eq_write {pattern : Text}
    (hFill : m.fillIn (pattern.takeWhile fun c => c != '\x00') = pattern)
    (hLength : ∀ limit, (m.write limit pattern).length < 1024) :
    ∃ limit, m.format pattern = m.write limit pattern := by
  have hRoom : ∀ limit, (m.write limit pattern).length < room pattern.length pattern.length 1024 :=
    fun limit => Nat.lt_of_lt_of_le (hLength limit) (le_room _ _ _)
  refine ⟨room pattern.length pattern.length 1024, ?_⟩
  simp only [format, hFill, if_pos (hRoom _)]

end Moment

/-- No spelling of a date has more than ten characters, so there is room for each. -/
theorem SpellsDate.length_le {d : Date} {t : Text} (h : SpellsDate d t) : t.length ≤ 10 := by
  obtain ⟨hYear, hMonth, hDay, hWeekYear, hWeek, hWeekday⟩ := d.numbers_lt
  cases h with
  | extended | basic => simp [length_figures, hYear, hMonth, hDay]
  | extendedWeek h | basicWeek h =>
      obtain ⟨rfl, rfl, rfl⟩ := h.eq
      simp [length_figures, hWeekYear, hWeek, hWeekday]

/-- The number of a year of four digits needs no zeros. -/
theorem figures_year {year : Nat} (h : 1000 ≤ year) : figures 1 year = figures 4 year := by
  have hThree : 0 < 3 := by decide
  rw [figures_of_le hThree h (by decide), figures_of_le hThree h (by decide)]

/-- The figures of a date that a conversion of the patterns writes. -/
def dateFigures (d : Date) : (conversion : Char) → Text
  | 'Y' => figures 4 d.year
  | 'm' => figures 2 d.month
  | 'd' => figures 2 d.day
  | 'G' => figures 4 d.weekYear
  | 'V' => figures 2 d.week
  | 'u' => figures 1 (d.weekday + 1)
  | _ => []

/-- The six directives for dates write figures of their width. Only the years need a bound for that,
since they are written without zeros before them. -/
theorem write_dateFigures {m : Moment} (hYear : 1000 ≤ m.date.year) {c : Char}
    (hConversion : c ∈ ['Y', 'm', 'd', 'G', 'V', 'u']) (limit : Nat) (rest : Text) :
    m.write limit ('%' :: c :: rest) = dateFigures m.date c ++ m.write limit rest := by
  have hWeekYear := m.date.weekYear_thousand hYear
  simp only [List.mem_cons, List.not_mem_nil, or_false] at hConversion
  rcases hConversion with rfl | rfl | rfl | rfl | rfl | rfl
  case inl =>
    rw [dateFigures, ← figures_year hYear]
    exact Moment.write_directive (fun _ => rfl) rfl limit rest
  case inr.inr.inr.inl =>
    rw [dateFigures, ← figures_year hWeekYear]
    exact Moment.write_directive (fun _ => rfl) rfl limit rest
  all_goals exact Moment.write_directive (fun _ => rfl) rfl limit rest

/-- Each pattern for dates writes one of the spellings, directive by directive. -/
theorem spellsDate_write {m : Moment} (hYear : 1000 ≤ m.date.year) {pattern : Text}
    (hPattern : pattern ∈ datePatterns) (limit : Nat) :
    SpellsDate m.date (m.write limit pattern) := by
  have hEnd : m.write limit [] = [] := by rw [Moment.write]
  simp only [datePatterns, List.map_cons, List.map_nil, List.mem_cons, List.not_mem_nil,
    or_false] at hPattern
  rcases hPattern with rfl | rfl | rfl | rfl
  · change SpellsDate m.date (m.write limit ['%', 'Y', '-', '%', 'm', '-', '%', 'd'])
    have hSpelled := SpellsDate.extended (d := m.date)
    simpa (disch := decide) only [write_dateFigures hYear, dateFigures, Moment.write_mark, hEnd,
      List.append_nil, List.append_assoc, List.cons_append] using hSpelled
  · change SpellsDate m.date (m.write limit ['%', 'Y', '%', 'm', '%', 'd'])
    have hSpelled := SpellsDate.basic (d := m.date)
    simpa (disch := decide) only [write_dateFigures hYear, dateFigures, hEnd, List.append_nil,
      List.append_assoc] using hSpelled
  · change SpellsDate m.date (m.write limit ['%', 'G', '-', 'W', '%', 'V', '-', '%', 'u'])
    have hSpelled := SpellsDate.extendedWeek m.date.isWeekDate
    simpa (disch := decide) only [write_dateFigures hYear, dateFigures, Moment.write_mark, hEnd,
      List.append_nil, List.append_assoc, List.cons_append] using hSpelled
  · change SpellsDate m.date (m.write limit ['%', 'G', 'W', '%', 'V', '%', 'u'])
    have hSpelled := SpellsDate.basicWeek m.date.isWeekDate
    simpa (disch := decide) only [write_dateFigures hYear, dateFigures, Moment.write_mark, hEnd,
      List.append_nil, List.append_assoc, List.cons_append] using hSpelled

/-- A date of a year of four digits is written in one of its spellings. -/
theorem spellsDate_format {m : Moment} (hYear : 1000 ≤ m.date.year) {pattern : Text}
    (hPattern : pattern ∈ datePatterns) : SpellsDate m.date (m.format pattern) := by
  have hWritten := spellsDate_write hYear hPattern
  have hFill : m.fillIn (pattern.takeWhile fun c => c != '\x00') = pattern := by
    simp only [datePatterns, List.map_cons, List.map_nil, List.mem_cons, List.not_mem_nil,
      or_false] at hPattern
    rcases hPattern with rfl | rfl | rfl | rfl <;> rfl
  have hLength : ∀ limit, (m.write limit pattern).length < 1024 := fun limit =>
    Nat.lt_of_le_of_lt (hWritten limit).length_le (by decide)
  obtain ⟨limit, hFormat⟩ := Moment.format_eq_write hFill hLength
  rw [hFormat]
  exact hWritten limit

end CommandMarkup.Calendar
