import CommandMarkup.Text.Blank

/-! Trimming from the outside. Blanks around a text do not show once it is trimmed, and a text that
starts and ends with something else is its own trimmed form. -/
namespace CommandMarkup.Text

variable {before after t : Text}

theorem trimStart_append_of_blank (h : ∀ c ∈ before, isBlank c = true) (t : Text) :
    trimStart (before ++ t) = trimStart t := List.dropWhile_append_of_pos h

/-- Blanks after a text are trimmed from its end. -/
theorem trimEnd_append_of_blank (h : ∀ c ∈ after, isBlank c = true) (t : Text) :
    trimEnd (t ++ after) = trimEnd t := by
  have hReverse : ∀ c ∈ after.reverse, isBlank c = true := by simpa using h
  rw [trimEnd, List.reverse_append, trimStart_append_of_blank hReverse, trimEnd]

/-- The start of a text is trimmed the same whatever blanks follow, unless they are all there is. -/
theorem trimEnd_trimStart_append (h : ∀ c ∈ after, isBlank c = true) (t : Text) :
    trimEnd (trimStart (t ++ after)) = trimEnd (trimStart t) := by
  induction t with
  | nil =>
      have hAfter := trimStart_append_of_blank h []
      rw [List.append_nil] at hAfter
      rw [List.nil_append, hAfter]
  | cons c t ih =>
      by_cases hc : isBlank c
      · simpa [trimStart, hc] using ih
      · have hKept : ∀ u : Text, trimStart (c :: u) = c :: u := by
          intro u
          simp [trimStart, hc]
        rw [List.cons_append, hKept, hKept, ← List.cons_append, trimEnd_append_of_blank h]

/-- Blanks at either end are trimmed away. -/
theorem trim_enclosed (hBefore : ∀ c ∈ before, isBlank c = true)
    (hAfter : ∀ c ∈ after, isBlank c = true) (t : Text) : trim (before ++ t ++ after) = trim t := by
  rw [trim, List.append_assoc, trimStart_append_of_blank hBefore,
    trimEnd_trimStart_append hAfter]
  rfl

theorem trimStart_of_head? (h : ∀ c ∈ t.head?, isBlank c = false) : trimStart t = t := by
  cases t with
  | nil => rfl
  | cons c t => simp [trimStart, h c rfl]

/-- A text that is not blank at its ends stays as it is. -/
theorem trim_of_ends (hStart : ∀ c ∈ t.head?, isBlank c = false)
    (hEnd : ∀ c ∈ t.getLast?, isBlank c = false) : trim t = t := by
  have hReverse : ∀ c ∈ t.reverse.head?, isBlank c = false := by simpa using hEnd
  rw [trim, trimStart_of_head? hStart, trimEnd, trimStart_of_head? hReverse, List.reverse_reverse]

/-- A trimmed text does not start with a blank. -/
theorem head?_trim : ∀ c ∈ (trim t).head?, isBlank c = false := by
  rw [trim]
  cases hStart : trimStart t with
  | nil => exact nofun
  | cons d u =>
      have hd : isBlank d = false := by
        have hFirst := List.head?_dropWhile_not isBlank t
        rw [show t.dropWhile isBlank = d :: u from hStart] at hFirst
        simpa using hFirst
      rw [trimEnd_cons hd, List.head?_cons]
      intro c hc
      exact Option.some.inj hc ▸ hd

end CommandMarkup.Text
