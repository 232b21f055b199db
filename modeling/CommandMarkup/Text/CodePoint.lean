import CommandMarkup.Text.Basic

/-!
Classes of code points, given as lists of ranges.
-/

namespace CommandMarkup.Text

/-- Whether the code point of `c` lies in one of the ranges; both ends belong to a range. -/
def inRanges (ranges : List (Nat × Nat)) (c : Char) : Bool :=
  ranges.any fun range => range.1 ≤ c.toNat && c.toNat ≤ range.2

/-- Whether the character belongs to ASCII. -/
def isAscii (c : Char) : Bool := c.toNat < 128

/-- What holds of the first 128 characters holds of every character of ASCII. -/
theorem forall_ascii {p : Char → Prop} (h : ∀ n : Fin 128, p (Char.ofNat n)) {c : Char}
    (hc : isAscii c = true) : p c := by
  have hLt : c.toNat < 128 := by simpa [isAscii] using hc
  simpa using h ⟨c.toNat, hLt⟩

end CommandMarkup.Text
