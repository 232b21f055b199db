/-!
Texts and the ways to cut them. A text is its sequence of code points, so lengths and offsets
count code points. No half of a surrogate pair stands in a text.

Main statements: `cut`, `splitOn` and `breakOn?` lose nothing (`cut_eq_some_iff`, `join_splitOn`,
`eq_append_of_breakOn?`), and pieces without the separator are split as they were joined
(`splitOn_join`).
-/

namespace CommandMarkup

/-- A text is a sequence of code points that stand for characters. The surrogates, from U+D800 to
U+DFFF, are left out: half of a pair stands for none, though a string of code units or of arbitrary
code points can hold one by itself. -/
abbrev Text := List Char

namespace Text

/-- The decimal digits of a number. -/
def ofNat (n : Nat) : Text := Nat.toDigits 10 n

/-- What stands before the first `sep`, and what stands after it if there is one. -/
def cut (sep : Char) : Text → Text × Option Text
  | [] => ([], none)
  | c :: rest =>
    if c = sep then ([], some rest)
    else (c :: (cut sep rest).1, (cut sep rest).2)

/-- The pieces between the occurrences of `sep`; a text without any is one piece. -/
def splitOn (sep : Char) : Text → List Text
  | [] => [[]]
  | c :: rest =>
    if c = sep then [] :: splitOn sep rest
    else
      match splitOn sep rest with
      | [] => [[c]]
      | piece :: pieces => (c :: piece) :: pieces

/-- The pieces with `sep` between each two of them. -/
def join (sep : Char) : List Text → Text
  | [] => []
  | [piece] => piece
  | piece :: next :: pieces => piece ++ sep :: join sep (next :: pieces)

/-- The rest of a text that begins with `start`. -/
def dropStart? : Text → Text → Option Text
  | [], t => some t
  | _ :: _, [] => none
  | s :: start, c :: t => if s = c then dropStart? start t else none

/-- The text without `ending`, if it ends so. -/
def dropEnd? (ending t : Text) : Option Text :=
  (dropStart? ending.reverse t.reverse).map List.reverse

/-- What stands before and after the first occurrence of `mark`. -/
def breakOn? (mark : Text) : Text → Option (Text × Text)
  | [] => (dropStart? mark []).map fun rest => ([], rest)
  | c :: t =>
    match dropStart? mark (c :: t) with
    | some rest => some ([], rest)
    | none => (breakOn? mark t).map fun parts => (c :: parts.1, parts.2)

theorem cut_eq_none_iff {sep : Char} {t before : Text} :
    cut sep t = (before, none) ↔ before = t ∧ sep ∉ t := by
  induction t generalizing before with
  | nil => simp [cut, eq_comm]
  | cons c t ih =>
    by_cases hc : c = sep
    · simp [cut, hc]
    · have hne : sep ≠ c := fun h => hc h.symm
      constructor
      · intro h
        simp only [cut, hc, if_false, Prod.mk.injEq] at h
        have := (@ih (cut sep t).1).1 (Prod.ext rfl h.2)
        refine ⟨?_, by simp [hne, this.2]⟩
        rw [← h.1, this.1]
      · rintro ⟨rfl, hmem⟩
        have ht : sep ∉ t := fun h => hmem (List.mem_cons_of_mem _ h)
        have := (@ih t).2 ⟨rfl, ht⟩
        simp [cut, hc, this]

theorem cut_eq_some_iff {sep : Char} {t before rest : Text} :
    cut sep t = (before, some rest) ↔ t = before ++ sep :: rest ∧ sep ∉ before := by
  induction t generalizing before with
  | nil => simp [cut]
  | cons c t ih =>
    by_cases hc : c = sep
    · subst hc
      constructor
      · intro h
        simp only [cut, if_true, Prod.mk.injEq, Option.some.injEq] at h
        obtain ⟨rfl, rfl⟩ := h
        simp
      · rintro ⟨h, hmem⟩
        cases before with
        | nil => simp_all [cut]
        | cons b before =>
          simp only [List.cons_append, List.cons.injEq] at h
          simp [h.1] at hmem
    · have hne : sep ≠ c := fun h => hc h.symm
      constructor
      · intro h
        simp only [cut, hc, if_false, Prod.mk.injEq] at h
        have := (@ih (cut sep t).1).1 (Prod.ext rfl h.2)
        obtain ⟨rfl, _⟩ := h
        refine ⟨?_, by simp [hne, this.2]⟩
        rw [List.cons_append, ← this.1]
      · rintro ⟨h, hmem⟩
        cases before with
        | nil => simp_all
        | cons b before =>
          simp only [List.cons_append, List.cons.injEq] at h
          obtain ⟨rfl, rfl⟩ := h
          have hb : sep ∉ before := fun hm => hmem (List.mem_cons_of_mem _ hm)
          have := (@ih before).2 ⟨rfl, hb⟩
          simp [cut, hc, this]

theorem splitOn_ne_nil (sep : Char) (t : Text) : splitOn sep t ≠ [] := by
  cases t with
  | nil => simp [splitOn]
  | cons c t =>
    simp only [splitOn]
    split
    · simp
    · split <;> simp

theorem splitOn_of_not_mem {sep : Char} {t : Text} (hmem : sep ∉ t) : splitOn sep t = [t] := by
  induction t with
  | nil => rfl
  | cons c t ih =>
    have hc : c ≠ sep := fun h => hmem (by simp [h])
    have ht : sep ∉ t := fun h => hmem (List.mem_cons_of_mem _ h)
    simp [splitOn, hc, ih ht]

theorem splitOn_append_cons {sep : Char} {piece : Text} (hmem : sep ∉ piece) (rest : Text) :
    splitOn sep (piece ++ sep :: rest) = piece :: splitOn sep rest := by
  induction piece with
  | nil => simp [splitOn]
  | cons c piece ih =>
    have hc : c ≠ sep := fun h => hmem (by simp [h])
    have hp : sep ∉ piece := fun h => hmem (List.mem_cons_of_mem _ h)
    simp [splitOn, hc, ih hp]

theorem join_cons (sep : Char) (piece : Text) {pieces : List Text} (h : pieces ≠ []) :
    join sep (piece :: pieces) = piece ++ sep :: join sep pieces := by
  cases pieces with
  | nil => exact absurd rfl h
  | cons next pieces => rfl

theorem join_splitOn (sep : Char) (t : Text) : join sep (splitOn sep t) = t := by
  induction t with
  | nil => rfl
  | cons c t ih =>
    by_cases hc : c = sep
    · simp only [splitOn, hc, if_true]
      rw [join_cons sep [] (splitOn_ne_nil sep t), ih, List.nil_append]
    · simp only [splitOn, hc, if_false]
      cases hs : splitOn sep t with
      | nil => exact absurd hs (splitOn_ne_nil sep t)
      | cons piece pieces =>
        rw [hs] at ih
        cases pieces <;> simp_all [join]

/-- Pieces without the separator are found again in what they are joined to. -/
theorem splitOn_join {sep : Char} {pieces : List Text} (hNonempty : pieces ≠ [])
    (hmem : ∀ piece ∈ pieces, sep ∉ piece) : splitOn sep (join sep pieces) = pieces := by
  induction pieces with
  | nil => exact absurd rfl hNonempty
  | cons piece pieces ih =>
    have hPiece : sep ∉ piece := hmem piece List.mem_cons_self
    cases pieces with
    | nil => exact splitOn_of_not_mem hPiece
    | cons next pieces =>
      rw [join_cons sep piece (List.cons_ne_nil _ _), splitOn_append_cons hPiece,
        ih (List.cons_ne_nil _ _) fun p hp => hmem p (List.mem_cons_of_mem _ hp)]

theorem dropStart?_eq_some_iff {start t rest : Text} :
    dropStart? start t = some rest ↔ t = start ++ rest := by
  induction start generalizing t with
  | nil => simp [dropStart?]
  | cons s start ih =>
    cases t with
    | nil => simp [dropStart?]
    | cons c t =>
      by_cases hc : s = c
      · simp [dropStart?, hc, ih]
      · simp [dropStart?, hc, Ne.symm hc]

theorem dropEnd?_eq_some_iff {ending t front : Text} :
    dropEnd? ending t = some front ↔ t = front ++ ending := by
  simp only [dropEnd?, Option.map_eq_some_iff, dropStart?_eq_some_iff]
  constructor
  · rintro ⟨r, hr, rfl⟩
    rw [← List.reverse_inj, hr]
    simp
  · rintro rfl
    exact ⟨front.reverse, by simp, by simp⟩

theorem eq_append_of_breakOn? {mark t before rest : Text}
    (h : breakOn? mark t = some (before, rest)) : t = before ++ mark ++ rest := by
  induction t generalizing before with
  | nil =>
    simp only [breakOn?, Option.map_eq_some_iff, dropStart?_eq_some_iff, Prod.mk.injEq] at h
    obtain ⟨r, hr, rfl, rfl⟩ := h
    simpa using hr
  | cons c t ih =>
    simp only [breakOn?] at h
    split at h
    · next r hr =>
      simp only [Option.some.injEq, Prod.mk.injEq] at h
      obtain ⟨rfl, rfl⟩ := h
      simpa using dropStart?_eq_some_iff.1 hr
    · simp only [Option.map_eq_some_iff, Prod.mk.injEq] at h
      obtain ⟨parts, hp, rfl, rfl⟩ := h
      have := @ih parts.1 hp
      rw [this]
      simp

end Text

end CommandMarkup
