import CommandMarkup.Text.Blank
import CommandMarkup.Text.Digit

/-! The digits of ASCII as the readers of the library see them, and the number that a row of them
writes. -/
namespace CommandMarkup.Text

/-- Whether the text consists of digits of ASCII. -/
def IsFigures (t : Text) : Prop := ∀ c ∈ t, c.isDigit = true

instance : DecidablePred IsFigures := fun _ => decidable_of_iff _ List.all_eq_true

/-- Rows of digits can be put together. -/
theorem IsFigures.append {t u : Text} (ht : IsFigures t) (hu : IsFigures u) : IsFigures (t ++ u) :=
  List.forall_mem_append.mpr ⟨ht, hu⟩

theorem isFigures_replicate (count : Nat) : IsFigures (List.replicate count '0') := by
  intro c hc
  rw [List.eq_of_mem_replicate hc]
  rfl

theorem ne_of_isDigit {c mark : Char} (h : c.isDigit = true) (hMark : mark.isDigit = false) :
    c ≠ mark := by
  intro hSame
  rw [hSame, hMark] at h
  cases h

/-- A digit lies between the code points of zero and nine. -/
theorem toNat_of_isDigit {c : Char} (h : c.isDigit = true) : 48 ≤ c.toNat ∧ c.toNat ≤ 57 := by
  simp only [Char.isDigit, Bool.and_eq_true, decide_eq_true_eq] at h
  exact ⟨UInt32.le_iff_toNat_le.mp h.1, UInt32.le_iff_toNat_le.mp h.2⟩

/-- A digit of ASCII has the value of its distance from zero. -/
theorem asciiDigit?_of_isDigit {c : Char} (h : c.isDigit = true) :
    asciiDigit? c = some (c.toNat - '0'.toNat) := by
  simp only [Char.isDigit, Bool.and_eq_true, decide_eq_true_eq] at h
  exact if_pos h

theorem asciiDigit?_of_not_isDigit {c : Char} (h : c.isDigit = false) : asciiDigit? c = none := by
  simp only [Char.isDigit, Bool.and_eq_false_iff, decide_eq_false_iff_not] at h
  apply if_neg
  intro hBetween
  rcases h with h | h
  · exact h hBetween.1
  · exact h hBetween.2

theorem isBlank_of_isDigit {c : Char} (h : c.isDigit = true) : isBlank c = false := by
  obtain ⟨hZero, hNine⟩ := toNat_of_isDigit h
  simp only [isBlank, inRanges, blankRanges, List.any_cons, List.any_nil, Bool.or_false,
    Bool.or_eq_false_iff, Bool.and_eq_false_iff, decide_eq_false_iff_not]
  omega

/-- ASCII comes first among the scripts. -/
theorem digitValue?_of_isDigit {c : Char} (h : c.isDigit = true) :
    digitValue? c = some (c.toNat - '0'.toNat) := by
  obtain ⟨hZero, hNine⟩ := toNat_of_isDigit h
  have hFound : (decide (0x30 ≤ c.toNat) && decide (c.toNat < 0x30 + 10)) = true := by
    simp only [Bool.and_eq_true, decide_eq_true_eq]
    omega
  have hRow : decimalZeros = 0x30 :: decimalZeros.tail := rfl
  rw [digitValue?, hRow, List.find?_cons, hFound]
  rfl

/-- All figures of a row are decimal digits. -/
theorem leadingDigits_figures {t : Text} (h : IsFigures t) : leadingDigits t = t.length := by
  have hDecimal : ∀ c ∈ t, (digitValue? c).isSome = true := by
    intro c hc
    rw [digitValue?_of_isDigit (h c hc)]
    rfl
  have hTake : (t ++ []).takeWhile (fun c => (digitValue? c).isSome) = t ++ [] :=
    List.takeWhile_append_of_pos hDecimal
  rw [List.append_nil] at hTake
  rw [leadingDigits, hTake]

/-- A row of figures is read as the number that it writes, after what has been read before. -/
theorem numberFrom_figures {t : Text} (h : IsFigures t) (sum : Nat) :
    numberFrom sum t = some (Nat.ofDigitChars 10 t sum) := by
  induction t generalizing sum with
  | nil => rfl
  | cons c t ih =>
      obtain ⟨hDigit, hRest⟩ := List.forall_mem_cons.mp h
      rw [numberFrom, digitValue?_of_isDigit hDigit, Nat.ofDigitChars_cons]
      exact ih hRest _

end CommandMarkup.Text
