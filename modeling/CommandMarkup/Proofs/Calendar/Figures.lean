import CommandMarkup.Calendar.Directive
import CommandMarkup.Calendar.Reader
import CommandMarkup.Proofs.Text.Figures
import Mathlib.Algebra.Group.Nat.Defs
import Mathlib.Data.List.TakeWhile

/-! Numbers of a fixed width, as they are written and as they are read. A number that has no more
digits than the width is filled up with zeros to it, and read back from as many characters. -/
namespace CommandMarkup.Calendar

open Text (IsFigures)

variable {width n : Nat}

/-- The number in figures, with zeros before it up to the width. -/
def figures (width n : Nat) : Text := Directive.padLeft '0' width (Text.ofNat n)

theorem isFigures_ofNat (n : Nat) : IsFigures (Text.ofNat n) :=
  fun _ hc => Nat.isDigit_of_mem_toDigits (by decide) (by decide) hc

theorem isFigures_figures (width n : Nat) : IsFigures (figures width n) :=
  (Text.isFigures_replicate _).append (isFigures_ofNat n)

/-- A number fits its width if it is less than that power of ten. -/
theorem length_figures (hWidth : 0 < width) (h : n < 10 ^ width) :
    (figures width n).length = width := by
  have hLength : (Text.ofNat n).length ≤ width :=
    (Nat.length_toDigits_le_iff (by decide) hWidth).mpr h
  rw [figures, Directive.length_padLeft]
  omega

/-- Zeros before a number do not change it. -/
theorem ofDigitChars_figures (width n : Nat) : Nat.ofDigitChars 10 (figures width n) 0 = n := by
  rw [figures, Directive.padLeft, Nat.ofDigitChars_append, Nat.ofDigitChars_replicate_zero,
    Nat.mul_zero]
  exact Nat.ofDigitChars_ten_toDigits

/-- A number that fills a width needs no zeros, for a smaller width either. -/
theorem figures_of_le {narrow : Nat} (hNarrow : 0 < narrow) (h : 10 ^ narrow ≤ n)
    (hWidth : width ≤ narrow + 1) : figures width n = Text.ofNat n := by
  have hLength : narrow < (Text.ofNat n).length := by
    rw [← Nat.not_le, Text.ofNat, Nat.length_toDigits_le_iff (by decide) hNarrow]
    omega
  have hNone : width - (Text.ofNat n).length = 0 := by omega
  rw [figures, Directive.padLeft, hNone]
  rfl

/-- A row of digits is read as the number it writes, whatever follows it. The number goes on from
the one that was read before. -/
theorem takeNumber?_append {t : Text} (h : IsFigures t) (value : Nat) (rest : Text) :
    takeNumber? t.length value (t ++ rest) = some (Nat.ofDigitChars 10 t value, rest) := by
  induction t generalizing value with
  | nil => rfl
  | cons c t ih =>
      obtain ⟨hDigit, hRest⟩ := List.forall_mem_cons.mp h
      rw [List.length_cons, List.cons_append, takeNumber?, Text.asciiDigit?_of_isDigit hDigit,
        Nat.ofDigitChars_cons]
      exact ih hRest _

/-- What is written in a fixed width is read back, whatever follows. -/
theorem takeNumber?_figures (hWidth : 0 < width) (h : n < 10 ^ width) (rest : Text) :
    takeNumber? width 0 (figures width n ++ rest) = some (n, rest) := by
  have hTake := takeNumber?_append (isFigures_figures width n) 0 rest
  rwa [length_figures hWidth h, ofDigitChars_figures] at hTake

/-- Of a fraction as many digits count as are asked for; zeros stand in for missing ones. The other
digits are passed over, so nothing of it is left unread. -/
theorem takeFraction?_figures {t : Text} (h : IsFigures t) (count value : Nat) :
    takeFraction? count value t =
      some (Nat.ofDigitChars 10 ((t ++ List.replicate count '0').take count) value, []) := by
  induction count generalizing value t with
  | zero =>
      have hDigits : ∀ c ∈ t, (Text.asciiDigit? c).isSome = true := by
        intro c hc
        rw [Text.asciiDigit?_of_isDigit (h c hc)]
        rfl
      rw [takeFraction?, List.dropWhile_eq_nil_iff.mpr hDigits]
      rfl
  | succ count ih =>
      cases t with
      | nil =>
          rw [takeFraction?, ih h, List.replicate_succ]
          rfl
      | cons c t =>
          obtain ⟨hDigit, hRest⟩ := List.forall_mem_cons.mp h
          have hFill : (t ++ List.replicate (count + 1) '0').take count =
              (t ++ List.replicate count '0').take count := by
            rw [List.replicate_succ', ← List.append_assoc, List.take_append_of_le_length (by simp)]
          rw [takeFraction?, Text.asciiDigit?_of_isDigit hDigit, List.cons_append,
            List.take_succ_cons, Nat.ofDigitChars_cons, hFill]
          exact ih hRest _

end CommandMarkup.Calendar
