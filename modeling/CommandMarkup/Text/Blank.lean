import CommandMarkup.Text.CodePoint

/-!
Blank characters and trimming. Main statement: trimming a trimmed text changes nothing
(`trim_trim`).
-/

namespace CommandMarkup.Text

/-- The Unicode white space, together with the four separators from U+001C to U+001F. -/
def blankRanges : List (Nat × Nat) :=
  [(0x9, 0xd), (0x1c, 0x20), (0x85, 0x85), (0xa0, 0xa0), (0x1680, 0x1680), (0x2000, 0x200a),
   (0x2028, 0x2029), (0x202f, 0x202f), (0x205f, 0x205f), (0x3000, 0x3000)]

/-- Whether `trim` takes the character away at an end. -/
def isBlank (c : Char) : Bool := inRanges blankRanges c

/-- The text without the blanks at its start. -/
def trimStart (t : Text) : Text := t.dropWhile isBlank

/-- The text without the blanks at its end. -/
def trimEnd (t : Text) : Text := (trimStart t.reverse).reverse

/-- The text without the blanks at its two ends. -/
def trim (t : Text) : Text := trimEnd (trimStart t)

theorem trimStart_trimStart (t : Text) : trimStart (trimStart t) = trimStart t := by
  induction t with
  | nil => rfl
  | cons c t ih =>
    by_cases hc : isBlank c
    · simpa [trimStart, hc] using ih
    · simp [trimStart, hc]

theorem trimEnd_trimEnd (t : Text) : trimEnd (trimEnd t) = trimEnd t := by
  simp [trimEnd, trimStart_trimStart]

/-- A text that starts with a kept character still does so when its end is trimmed. -/
theorem trimEnd_cons {c : Char} (hc : isBlank c = false) (t : Text) :
    trimEnd (c :: t) = c :: trimEnd t := by
  have h : ∀ u : Text, trimStart (u ++ [c]) = trimStart u ++ [c] := by
    intro u
    induction u with
    | nil => simp [trimStart, hc]
    | cons d u ih =>
      by_cases hd : isBlank d
      · simpa [trimStart, hd] using ih
      · simp [trimStart, hd]
  simp [trimEnd, h]

theorem trim_trim (t : Text) : trim (trim t) = trim t := by
  unfold trim
  cases hs : trimStart t with
  | nil => rfl
  | cons c u =>
    have hc : isBlank c = false := by
      have := List.head?_dropWhile_not isBlank t
      rw [show t.dropWhile isBlank = c :: u from hs] at this
      simpa using this
    rw [trimEnd_cons hc, show trimStart (c :: trimEnd u) = c :: trimEnd u by simp [trimStart, hc],
      trimEnd_cons hc, trimEnd_trimEnd]

end CommandMarkup.Text
