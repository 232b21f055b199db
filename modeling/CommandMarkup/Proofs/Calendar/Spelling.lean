import CommandMarkup.Proofs.Calendar.Figures
import CommandMarkup.Proofs.Calendar.Week
import CommandMarkup.Proofs.Text.Trimming
import Mathlib.Data.List.Basic

/-! The spellings of a date and of a time of day. A date is written by month and day or by week and
day of the week, a time as far as anything is left of it; both have a form with marks between the
numbers and one without.

Main statement: `ofIso?_of_spells`. -/
namespace CommandMarkup.Calendar

open Text (IsFigures)

/-- The spellings of a date. -/
inductive SpellsDate (d : Date) : Text → Prop where
  | extended :
      SpellsDate d (figures 4 d.year ++ '-' :: figures 2 d.month ++ '-' :: figures 2 d.day)
  | basic : SpellsDate d (figures 4 d.year ++ figures 2 d.month ++ figures 2 d.day)
  | extendedWeek {year week day : Nat} (hWeek : d.IsWeekDate year week day) :
      SpellsDate d (figures 4 year ++ '-' :: 'W' :: figures 2 week ++ '-' :: figures 1 day)
  | basicWeek {year week day : Nat} (hWeek : d.IsWeekDate year week day) :
      SpellsDate d (figures 4 year ++ 'W' :: figures 2 week ++ figures 1 day)

/-- The number that a fraction writes in six digits. Zeros stand in for missing ones, and no more
than six count. -/
def sixDigits (fraction : Text) : Nat :=
  Nat.ofDigitChars 10 ((fraction ++ List.replicate 6 '0').take 6) 0

/-- The spellings of a time, with a colon between the numbers or with nothing. What is zero at the
end may be left out. -/
inductive SpellsTime (time : TimeOfDay) (colon : Text) : Text → Prop where
  | hour (hZero : time.minute = 0 ∧ time.second = 0 ∧ time.microsecond = 0) :
      SpellsTime time colon (figures 2 time.hour)
  | minute (hZero : time.second = 0 ∧ time.microsecond = 0) :
      SpellsTime time colon (figures 2 time.hour ++ colon ++ figures 2 time.minute)
  | second (hZero : time.microsecond = 0) : SpellsTime time colon
      (figures 2 time.hour ++ colon ++ figures 2 time.minute ++ colon ++ figures 2 time.second)
  | fraction {mark : Char} {fraction : Text} (hMark : mark = '.' ∨ mark = ',')
      (hNonempty : fraction ≠ []) (hFigures : IsFigures fraction)
      (hValue : sixDigits fraction = time.microsecond) : SpellsTime time colon
      (figures 2 time.hour ++ colon ++ figures 2 time.minute ++ colon ++ figures 2 time.second ++
        mark :: fraction)

/-- The spellings of a day and a time on it. The start of a day needs no time. -/
inductive Spells (date : Date) (time : TimeOfDay) : Text → Prop where
  | day {t : Text} (hDate : SpellsDate date t) (hMidnight : time = .midnight) : Spells date time t
  | moment {t colon clock : Text} {mark : Char} (hDate : SpellsDate date t)
      (hMark : mark = 'T' ∨ mark = ' ') (hColon : colon = [':'] ∨ colon = [])
      (hTime : SpellsTime time colon clock) : Spells date time (t ++ mark :: clock)

theorem startsWithDigit_append {t : Text} (h : IsFigures t) (hNonempty : t ≠ []) (rest : Text) :
    startsWithDigit (t ++ rest) = true := by
  cases t with
  | nil => exact absurd rfl hNonempty
  | cons c t =>
      rw [List.cons_append, startsWithDigit, Text.asciiDigit?_of_isDigit (h c List.mem_cons_self)]
      rfl

theorem figures_ne_nil (width n : Nat) : figures width n ≠ [] :=
  List.append_ne_nil_of_right_ne_nil _ Nat.toDigits_ne_nil

/-- A text that ends in digits starts with one when it is read backwards. -/
theorem startsWithDigit_reverse {t : Text} (before : Text) (h : IsFigures t)
    (hNonempty : t ≠ []) : startsWithDigit (before ++ t).reverse = true := by
  have hReverse : IsFigures t.reverse := fun c hc => h c (List.mem_reverse.mp hc)
  rw [List.reverse_append]
  exact startsWithDigit_append hReverse (mt List.reverse_eq_nil_iff.mp hNonempty) _

theorem startsWithDigit_figures (width n : Nat) (rest : Text) :
    startsWithDigit (figures width n ++ rest) = true :=
  startsWithDigit_append (isFigures_figures width n) (figures_ne_nil width n) rest

/-- A number in figures has a first digit, which tells it from the marks that could stand there. -/
theorem exists_cons_figures (width n : Nat) (rest : Text) :
    ∃ c t, figures width n ++ rest = c :: t ∧ c.isDigit = true := by
  cases hFigures : figures width n with
  | nil => exact absurd hFigures (figures_ne_nil width n)
  | cons c t =>
      have hDigits : IsFigures (c :: t) := hFigures ▸ isFigures_figures width n
      exact ⟨c, t ++ rest, rfl, hDigits c List.mem_cons_self⟩

section Date

variable {d : Date} {rest : Text}

/-- The numbers of a date and of its week fit the widths in which they are written. -/
theorem Date.numbers_lt (d : Date) : d.year < 10000 ∧ d.month < 100 ∧ d.day < 100 ∧
    d.weekYear < 10000 ∧ d.week < 100 ∧ d.weekday + 1 < 10 := by
  obtain ⟨_, hYear, _, hMonth, _, hDay⟩ := d.isDate
  have hLast : daysInMonth d.year d.month ≤ 31 := by
    rw [daysInMonth.eq_def]
    split <;> (try split) <;> decide
  have hWeekYear := d.weekYear_spec.2.1
  have hWeek := d.week_lt
  have hWeekday := d.weekday_le
  omega

/-- What holds of the digits and of the marks of a date holds of all its characters. -/
theorem SpellsDate.forall_mem {p : Char → Prop} {t : Text} (h : SpellsDate d t)
    (hDigit : ∀ c, c.isDigit = true → p c) (hHyphen : p '-') (hLetter : p 'W') : ∀ c ∈ t, p c := by
  have hNumber : ∀ width n, ∀ c ∈ figures width n, p c := fun width n c hc =>
    hDigit c (isFigures_figures width n c hc)
  cases h <;> simp only [List.forall_mem_append, List.forall_mem_cons]
  case extended => exact ⟨⟨hNumber _ _, hHyphen, hNumber _ _⟩, hHyphen, hNumber _ _⟩
  case basic => exact ⟨⟨hNumber _ _, hNumber _ _⟩, hNumber _ _⟩
  case extendedWeek => exact ⟨⟨hNumber _ _, hHyphen, hLetter, hNumber _ _⟩, hHyphen, hNumber _ _⟩
  case basicWeek => exact ⟨⟨hNumber _ _, hLetter, hNumber _ _⟩, hNumber _ _⟩

/-- After a hyphen the day of the week is read, as long as no time seems to follow it. -/
theorem takeHyphenDay?_figures {day : Nat} (h : day < 10) (hRest : startsWithDigit rest = false) :
    takeHyphenDay? ('-' :: (figures 1 day ++ rest)) = some (day, rest) := by
  obtain ⟨c, hc⟩ := List.length_eq_one_iff.mp (length_figures (by decide : 0 < 1) h)
  have hTake := takeNumber?_figures (by decide : 0 < 1) h rest
  rw [hc] at hTake ⊢
  rw [List.singleton_append] at hTake ⊢
  rw [takeHyphenDay?, hRest]
  exact hTake

/-- One digit alone after the week is the day of the week. -/
theorem takeDigitDay?_figures {day : Nat} (h : day < 10) (hRest : startsWithDigit rest = false) :
    takeDigitDay? (figures 1 day ++ rest) = some (day, rest) := by
  have hCount : countDigits (figures 1 day ++ rest) = 1 := by
    have hNone : rest.takeWhile (fun c => (Text.asciiDigit? c).isSome) = [] := by
      cases rest with
      | nil => rfl
      | cons c t => exact List.takeWhile_cons_of_neg (Bool.not_eq_true _ ▸ hRest)
    have hDigits : ∀ c ∈ figures 1 day, (Text.asciiDigit? c).isSome = true := by
      intro c hc
      rw [Text.asciiDigit?_of_isDigit (isFigures_figures 1 day c hc)]
      rfl
    rw [countDigits, List.takeWhile_append_of_pos hDigits, hNone, List.append_nil,
      length_figures (by decide) h]
  rw [takeDigitDay?, hCount]
  exact takeNumber?_figures (by decide) h rest

/-- A date is read from each of its spellings, unless another digit follows. -/
theorem takeDate?_of_spells {t : Text} (h : SpellsDate d t) (hRest : startsWithDigit rest = false) :
    takeDate? (t ++ rest) = some (d, rest) := by
  obtain ⟨hYear, hMonth, hDay, hWeekYear, hWeek, hWeekday⟩ := d.numbers_lt
  have hOf : Date.of? d.year d.month d.day = some d := dif_pos d.isDate
  cases h with
  | extended =>
      obtain ⟨c, t, hFirst, hDigit⟩ :=
        exists_cons_figures 2 d.month ('-' :: (figures 2 d.day ++ rest))
      have hTake := takeNumber?_figures (by decide : 0 < 2) hMonth
        ('-' :: (figures 2 d.day ++ rest))
      have hLetter : c ≠ 'W' := Text.ne_of_isDigit hDigit rfl
      rw [hFirst] at hTake
      simp [takeDate?, takeNumber?_figures, hYear, hFirst, hTake, hDay, hLetter, hOf]
  | basic =>
      obtain ⟨c, t, hFirst, hDigit⟩ := exists_cons_figures 2 d.month (figures 2 d.day ++ rest)
      have hTake := takeNumber?_figures (by decide : 0 < 2) hMonth (figures 2 d.day ++ rest)
      have hLetter : c ≠ 'W' := Text.ne_of_isDigit hDigit rfl
      have hHyphen : c ≠ '-' := Text.ne_of_isDigit hDigit rfl
      rw [hFirst] at hTake
      simp [takeDate?, takeNumber?_figures, hYear, hFirst, hTake, hDay, hLetter, hHyphen, hOf]
  | extendedWeek h =>
      obtain ⟨rfl, rfl, rfl⟩ := h.eq
      simp [takeDate?, takeNumber?_figures, hWeekYear, hWeek, takeHyphenDay?_figures hWeekday hRest,
        d.ofWeek?_week]
  | basicWeek h =>
      obtain ⟨rfl, rfl, rfl⟩ := h.eq
      simp [takeDate?, takeNumber?_figures, hWeekYear, hWeek, takeDigitDay?_figures hWeekday hRest,
        d.ofWeek?_week]

end Date

section Time

variable {time : TimeOfDay} {colon clock : Text}

/-- With a colon after its hours or without, a time goes on with the number that comes next. -/
theorem continuation?_number (hColon : colon = [':'] ∨ colon = []) {n : Nat} (hNumber : n < 100)
    (rest : Text) :
    continuation? (colon = [':']) (colon ++ (figures 2 n ++ rest)) =
      some (.number (figures 2 n ++ rest)) := by
  obtain ⟨c, d, hFigures⟩ := List.length_eq_two.mp (length_figures (by decide : 0 < 2) hNumber)
  have hDigit : c.isDigit = true :=
    isFigures_figures 2 n c (hFigures ▸ List.mem_cons_self)
  have hPlain : ∀ mark, mark.isDigit = false → c ≠ mark := fun _ => Text.ne_of_isDigit hDigit
  rcases hColon with rfl | rfl
  · simp [hFigures, continuation?]
  · simp [hFigures, continuation?, hPlain]

theorem continuation?_fraction {colons : Bool} {mark : Char} {fraction : Text}
    (hMark : mark = '.' ∨ mark = ',') (hNonempty : fraction ≠ []) :
    continuation? colons (mark :: fraction) = some (.fraction fraction) := by
  have hColon : mark ≠ ':' := by
    rintro rfl
    revert hMark
    decide
  cases fraction with
  | nil => exact absurd rfl hNonempty
  | cons c t => simp [continuation?, hColon, hMark]

section Numbers

variable {n count : Nat} (hNumber : n < 100)

include hNumber

theorem takeNumbers?_last (colons : Bool) :
    takeNumbers? colons (count + 1) (figures 2 n) = some (⟨[n], 0⟩, []) := by
  have hTake := takeNumber?_figures (by decide : 0 < 2) hNumber []
  rw [List.append_nil] at hTake
  rw [takeNumbers?, hTake]
  rfl

/-- A fraction may follow any of the numbers. Nothing of it is left unread, however long it is. -/
theorem takeNumbers?_fraction {colons : Bool} {mark : Char} {fraction : Text}
    (hMark : mark = '.' ∨ mark = ',') (hNonempty : fraction ≠ [])
    (hFigures : IsFigures fraction) :
    takeNumbers? colons (count + 1) (figures 2 n ++ mark :: fraction) =
      some (⟨[n], sixDigits fraction⟩, []) := by
  rw [takeNumbers?, takeNumber?_figures (by decide : 0 < 2) hNumber]
  dsimp only
  rw [continuation?_fraction hMark hNonempty]
  dsimp only
  rw [takeFraction?_figures hFigures]
  rfl

/-- A number is put before those that are read after it. -/
theorem takeNumbers?_number (hColon : colon = [':'] ∨ colon = []) {next : Nat}
    (hNext : next < 100) (rest : Text) :
    takeNumbers? (colon = [':']) (count + 1) (figures 2 n ++ (colon ++ (figures 2 next ++ rest))) =
      (takeNumbers? (colon = [':']) count (figures 2 next ++ rest)).map
        fun (clock, unread) => (clock.after n, unread) := by
  rw [takeNumbers?, takeNumber?_figures (by decide : 0 < 2) hNumber]
  dsimp only
  rw [continuation?_number hColon hNext]

/-- The third character tells whether there are colons. -/
theorem takeClock?_number (hColon : colon = [':'] ∨ colon = []) {next : Nat}
    (hNext : next < 100) (rest : Text) :
    takeClock? (figures 2 n ++ (colon ++ (figures 2 next ++ rest))) =
      (takeNumbers? (colon = [':']) 2 (figures 2 next ++ rest)).map
        fun (clock, unread) => (clock.after n, unread) := by
  have hMark : (figures 2 n ++ (colon ++ (figures 2 next ++ rest)))[2]? = some ':' ↔
      colon = [':'] := by
    have hLength := length_figures (by decide : 0 < 2) hNumber
    obtain ⟨c, t, hFirst, hDigit⟩ := exists_cons_figures 2 next rest
    rw [List.getElem?_append_right (by rw [hLength]), hLength, hFirst]
    rcases hColon with rfl | rfl
    · simp
    · simp [Text.ne_of_isDigit hDigit]
  rw [takeClock?, ← takeNumbers?_number hNumber hColon hNext]
  simp only [hMark]

end Numbers

theorem TimeOfDay.of?_self (time : TimeOfDay) :
    TimeOfDay.of? time.hour time.minute time.second time.microsecond = some time :=
  dif_pos time.inDay

/-- A time is read from each of its spellings, and nothing of it is left unread. -/
theorem takeClock?_of_spells (hColon : colon = [':'] ∨ colon = [])
    (h : SpellsTime time colon clock) :
    ∃ read, takeClock? clock = some (read, []) ∧
      TimeOfDay.of? read.hour read.minute read.second read.microsecond = some time := by
  have hOf := TimeOfDay.of?_self time
  obtain ⟨hHour, hMinute, hSecond, _⟩ := time.inDay
  have hHour : time.hour < 100 := by omega
  have hMinute : time.minute < 100 := by omega
  have hSecond : time.second < 100 := by omega
  cases h with
  | hour hZero =>
      obtain ⟨hMinute, hSecond, hMicrosecond⟩ := hZero
      rw [hMinute, hSecond, hMicrosecond] at hOf
      exact ⟨_, takeNumbers?_last hHour _, hOf⟩
  | minute hZero =>
      obtain ⟨hSecond, hMicrosecond⟩ := hZero
      rw [hSecond, hMicrosecond] at hOf
      refine ⟨⟨[time.hour, time.minute], 0⟩, ?_, hOf⟩
      rw [← List.append_nil (figures 2 time.minute), List.append_assoc,
        takeClock?_number hHour hColon hMinute, List.append_nil, takeNumbers?_last hMinute]
      rfl
  | second hZero =>
      rw [hZero] at hOf
      refine ⟨⟨[time.hour, time.minute, time.second], 0⟩, ?_, hOf⟩
      simp only [List.append_assoc]
      rw [takeClock?_number hHour hColon hMinute, ← List.append_nil (figures 2 time.second),
        takeNumbers?_number hMinute hColon hSecond, List.append_nil, takeNumbers?_last hSecond]
      rfl
  | @fraction mark fraction hMark hNonempty hFigures hValue =>
      rw [← hValue] at hOf
      refine ⟨⟨[time.hour, time.minute, time.second], sixDigits fraction⟩, ?_, hOf⟩
      simp only [List.append_assoc]
      rw [takeClock?_number hHour hColon hMinute, takeNumbers?_number hMinute hColon hSecond,
        takeNumbers?_fraction hSecond hMark hNonempty hFigures]
      rfl

/-- What holds of the digits and of the marks of a time holds of all its characters. -/
theorem SpellsTime.forall_mem {p : Char → Prop} (h : SpellsTime time colon clock)
    (hDigit : ∀ c, c.isDigit = true → p c) (hColon : ∀ c ∈ colon, p c) (hPoint : p '.')
    (hComma : p ',') : ∀ c ∈ clock, p c := by
  have hFigures : ∀ {t : Text}, IsFigures t → ∀ c ∈ t, p c := fun ht c hc => hDigit c (ht c hc)
  have hNumber : ∀ n, ∀ c ∈ figures 2 n, p c := fun n => hFigures (isFigures_figures 2 n)
  cases h with
  | hour => exact hNumber _
  | minute => simpa only [List.forall_mem_append] using ⟨⟨hNumber _, hColon⟩, hNumber _⟩
  | second =>
      simpa only [List.forall_mem_append] using
        ⟨⟨⟨⟨hNumber _, hColon⟩, hNumber _⟩, hColon⟩, hNumber _⟩
  | @fraction mark _ hMark _ hFraction _ =>
      have hMark : p mark := by
        rcases hMark with rfl | rfl
        · exact hPoint
        · exact hComma
      simpa only [List.forall_mem_append, List.forall_mem_cons] using
        ⟨⟨⟨⟨⟨hNumber _, hColon⟩, hNumber _⟩, hColon⟩, hNumber _⟩, hMark, hFigures hFraction⟩

/-- No character of a time looks like the start of an offset. -/
theorem startsOffset_of_spells (hColon : colon = [':'] ∨ colon = [])
    (h : SpellsTime time colon clock) : ∀ c ∈ clock, startsOffset c = false := by
  apply h.forall_mem (p := fun c => startsOffset c = false)
  · intro c hc
    have hPlain : ∀ mark, mark.isDigit = false → c ≠ mark := fun _ => Text.ne_of_isDigit hc
    simp [startsOffset, hPlain]
  · rcases hColon with rfl | rfl <;> simp [startsOffset]
  · rfl
  · rfl

end Time

/-- A moment is read from each of its spellings. -/
theorem ofIso?_of_spells {date : Date} {time : TimeOfDay} {t : Text} (h : Spells date time t) :
    Moment.ofIso? t = some ⟨date, time, none⟩ := by
  cases h with
  | day hDate hMidnight =>
      have hTake := takeDate?_of_spells hDate (rfl : startsWithDigit [] = false)
      rw [List.append_nil] at hTake
      rw [Moment.ofIso?, hTake, hMidnight]
  | @moment t colon clock mark hDate hMark hColon hTime =>
      have hApart : startsWithDigit (mark :: clock) = false := by
        rcases hMark with rfl | rfl <;> rfl
      have hPlain : ∀ c ∈ clock, (!startsOffset c) = true := by
        intro c hc
        rw [startsOffset_of_spells hColon hTime c hc]
        rfl
      obtain ⟨read, hRead, hOf⟩ := takeClock?_of_spells hColon hTime
      have hReads : readTime? clock = some (time, none) := by
        rw [readTime?, List.takeWhile_eq_self_iff.mpr hPlain, List.dropWhile_eq_nil_iff.mpr hPlain,
          hRead]
        dsimp only
        rw [hOf]
        rfl
      rw [Moment.ofIso?, takeDate?_of_spells hDate hApart]
      dsimp only
      rw [hReads]
      rfl

/-- A time is read from more than its spellings: a fraction after any of its numbers, a fraction
without its mark or with a colon for it, and one character that is left over before an offset. -/
example : ["12.5", "14:30,5", "12345678", "12:34:56:78", "12:Z", "205+12:00"].map (fun clock =>
      (readTime? clock.toList).map fun (time, _) =>
        (time.hour, time.minute, time.second, time.microsecond)) =
    [some (12, 0, 0, 500000), some (14, 30, 0, 500000), some (12, 34, 56, 780000),
      some (12, 34, 56, 780000), some (12, 0, 0, 0), some (20, 0, 0, 0)] := rfl

/-- A digit is no blank, so a text that starts with one keeps its start when it is trimmed. -/
theorem isBlank_of_startsWithDigit {t : Text} (h : startsWithDigit t = true) :
    ∀ c ∈ t.head?, Text.isBlank c = false := by
  cases t with
  | nil => exact nofun
  | cons d t =>
      intro c hc
      obtain rfl : d = c := Option.some.inj hc
      cases hDigit : d.isDigit with
      | false =>
          rw [startsWithDigit, Text.asciiDigit?_of_not_isDigit hDigit] at h
          cases h
      | true => exact Text.isBlank_of_isDigit hDigit

theorem startsWithDigit_reverse_figures (before : Text) (width n : Nat) :
    startsWithDigit (before ++ figures width n).reverse = true :=
  startsWithDigit_reverse before (isFigures_figures width n) (figures_ne_nil width n)

theorem SpellsDate.start {d : Date} {t : Text} (h : SpellsDate d t) (rest : Text) :
    startsWithDigit (t ++ rest) = true := by
  cases h <;> simp only [List.append_assoc, startsWithDigit_figures]

theorem SpellsDate.stop {d : Date} {t : Text} (h : SpellsDate d t) :
    startsWithDigit t.reverse = true := by
  cases h with
  | extended | extendedWeek =>
      rw [List.append_cons]
      exact startsWithDigit_reverse_figures _ _ _
  | basic | basicWeek => exact startsWithDigit_reverse_figures _ _ _

/-- Every spelling of a time ends with a digit, of a number or of the fraction. -/
theorem SpellsTime.stop {time : TimeOfDay} {colon clock : Text} (h : SpellsTime time colon clock)
    (before : Text) : startsWithDigit (before ++ clock).reverse = true := by
  cases h with
  | hour => exact startsWithDigit_reverse_figures _ _ _
  | minute | second =>
      rw [← List.append_assoc]
      exact startsWithDigit_reverse_figures _ _ _
  | fraction _ hNonempty hFigures _ =>
      rw [List.append_cons, ← List.append_assoc]
      exact startsWithDigit_reverse _ hFigures hNonempty

/-- A spelling has no blanks at its ends. -/
theorem trim_of_spells {date : Date} {time : TimeOfDay} {t : Text} (h : Spells date time t) :
    Text.trim t = t := by
  apply Text.trim_of_ends
  · apply isBlank_of_startsWithDigit
    cases h with
    | day hDate _ =>
        rw [← List.append_nil t]
        exact hDate.start []
    | moment hDate _ _ _ => exact hDate.start _
  · rw [← List.head?_reverse]
    apply isBlank_of_startsWithDigit
    cases h with
    | day hDate _ => exact hDate.stop
    | moment _ _ _ hTime =>
        rw [List.append_cons]
        exact hTime.stop _

end CommandMarkup.Calendar
