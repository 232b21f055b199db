import CommandMarkup.Text.Basic

/-! Occurrences of a mark in a text, by their offsets. Breaking a text on a mark finds the first
occurrence, wherever the mark overlaps with itself or with what follows it. -/
namespace CommandMarkup.Text

/-- The mark stands in the text at that offset. -/
def OccursAt (mark t : Text) (offset : Nat) : Prop := mark <+: t.drop offset

/-- The mark stands in the text at that offset and at none before it. -/
def FirstAt (mark t : Text) (offset : Nat) : Prop :=
  OccursAt mark t offset ∧ ∀ i < offset, ¬ OccursAt mark t i

instance (mark t : Text) (offset : Nat) : Decidable (OccursAt mark t offset) :=
  inferInstanceAs (Decidable (mark <+: t.drop offset))

theorem occursAt_append (before mark rest : Text) :
    OccursAt mark (before ++ mark ++ rest) before.length := by
  rw [OccursAt, List.append_assoc, List.drop_left]
  exact List.prefix_append mark rest

theorem occursAt_zero_iff {mark t : Text} :
    OccursAt mark t 0 ↔ ∃ rest, dropStart? mark t = some rest := by
  simp only [OccursAt, List.drop_zero, dropStart?_eq_some_iff]
  exact ⟨fun h => h.imp fun _ => Eq.symm, fun h => h.imp fun _ => Eq.symm⟩

theorem occursAt_iff_exists {mark t : Text} {i : Nat} :
    OccursAt mark t i ↔ ∃ rest, t.drop i = mark ++ rest :=
  exists_congr fun _ => eq_comm

/-- Where a mark stands in the rest of a text it stands in the text, by so much later. -/
theorem occursAt_drop_iff {mark t : Text} {i j : Nat} :
    OccursAt mark (t.drop i) j ↔ OccursAt mark t (i + j) := by
  rw [OccursAt, OccursAt, List.drop_drop]

/-- What stands behind the end of an occurrence does not matter to it. -/
theorem occursAt_append_iff {mark t : Text} {i : Nat} (h : i + mark.length ≤ t.length)
    (rest : Text) : OccursAt mark (t ++ rest) i ↔ OccursAt mark t i := by
  have hDrop : (t ++ rest).drop i = t.drop i ++ rest := List.drop_append_of_le_length (by omega)
  rw [OccursAt, OccursAt, hDrop]
  constructor
  · intro hPrefix
    exact List.prefix_of_prefix_length_le hPrefix (List.prefix_append _ rest)
      (by rw [List.length_drop]; omega)
  · intro hPrefix
    exact hPrefix.trans (List.prefix_append _ rest)

/-- A text is not broken if and only if the mark stands nowhere in it. -/
theorem breakOn?_eq_none_iff {mark t : Text} :
    breakOn? mark t = none ↔ ∀ i, ¬ OccursAt mark t i := by
  induction t with
  | nil =>
      have hAll : ∀ i, OccursAt mark [] i ↔ OccursAt mark [] 0 := by
        intro i
        rw [OccursAt, OccursAt, List.drop_nil, List.drop_nil]
      simp only [hAll, occursAt_zero_iff, breakOn?, Option.map_eq_none_iff]
      cases dropStart? mark [] <;> simp
  | cons c t ih =>
      cases hStart : dropStart? mark (c :: t) with
      | some rest =>
          have hZero : OccursAt mark (c :: t) 0 := occursAt_zero_iff.mpr ⟨rest, hStart⟩
          simp only [breakOn?, hStart, reduceCtorEq, false_iff]
          intro hNone
          exact hNone 0 hZero
      | none =>
          have hZero : ¬ OccursAt mark (c :: t) 0 := by
            simp [occursAt_zero_iff, hStart]
          simp only [breakOn?, hStart, Option.map_eq_none_iff, ih]
          constructor
          · intro h i
            cases i with
            | zero => exact hZero
            | succ i => exact h i
          · intro h i
            exact h (i + 1)

/-- A text is broken on the first occurrence of the mark. -/
theorem breakOn?_eq_some_iff {mark t before rest : Text} :
    breakOn? mark t = some (before, rest) ↔
      t = before ++ mark ++ rest ∧ ∀ i < before.length, ¬ OccursAt mark t i := by
  induction t generalizing before with
  | nil =>
      simp only [breakOn?, Option.map_eq_some_iff, dropStart?_eq_some_iff, Prod.mk.injEq]
      constructor
      · rintro ⟨_, hMark, rfl, rfl⟩
        exact ⟨hMark, fun i hi => absurd hi (Nat.not_lt_zero i)⟩
      · rintro ⟨hText, _⟩
        have hNil : before = [] ∧ mark = [] ∧ rest = [] := by simpa using hText.symm
        obtain ⟨rfl, rfl, rfl⟩ := hNil
        exact ⟨[], rfl, rfl, rfl⟩
  | cons c t ih =>
      cases hStart : dropStart? mark (c :: t) with
      | some found =>
          have hZero : OccursAt mark (c :: t) 0 := occursAt_zero_iff.mpr ⟨found, hStart⟩
          simp only [breakOn?, hStart, Option.some.injEq, Prod.mk.injEq]
          constructor
          · rintro ⟨rfl, rfl⟩
            exact ⟨dropStart?_eq_some_iff.mp hStart, fun i hi => absurd hi (Nat.not_lt_zero i)⟩
          · rintro ⟨hText, hFirst⟩
            cases before with
            | nil =>
                rw [dropStart?_eq_some_iff.mp hStart, List.nil_append,
                  List.append_cancel_left_eq] at hText
                exact ⟨rfl, hText⟩
            | cons b before => exact absurd hZero (hFirst 0 (Nat.succ_pos _))
      | none =>
          have hZero : ¬ OccursAt mark (c :: t) 0 := by
            simp [occursAt_zero_iff, hStart]
          simp only [breakOn?, hStart, Option.map_eq_some_iff, Prod.mk.injEq]
          constructor
          · rintro ⟨⟨front, found⟩, hFound, rfl, rfl⟩
            obtain ⟨hText, hFirst⟩ := ih.mp hFound
            refine ⟨by rw [hText]; simp, ?_⟩
            intro i hi
            cases i with
            | zero => exact hZero
            | succ i => exact hFirst i (Nat.lt_of_succ_lt_succ hi)
          · rintro ⟨hText, hFirst⟩
            cases before with
            | nil =>
                rw [hText] at hZero
                exact absurd (occursAt_append [] mark rest) hZero
            | cons b before =>
                simp only [List.cons_append, List.cons.injEq] at hText
                obtain ⟨rfl, hText⟩ := hText
                refine ⟨(before, rest), ih.mpr ⟨hText, ?_⟩, rfl, rfl⟩
                intro i hi
                exact hFirst (i + 1) (Nat.succ_lt_succ hi)

theorem FirstAt.le_length {mark t : Text} {i : Nat} (h : FirstAt mark t i) : i ≤ t.length := by
  apply Nat.le_of_not_lt
  intro hLength
  have hMark : mark = [] := by
    have hPrefix := h.1
    rw [OccursAt, List.drop_eq_nil_of_le (by omega)] at hPrefix
    exact List.prefix_nil.mp hPrefix
  have hZero : OccursAt mark t 0 := hMark ▸ List.nil_prefix
  exact h.2 0 (by omega) hZero

/-- A text is broken at the first place where the mark stands. -/
theorem firstAt_of_breakOn? {mark t before rest : Text}
    (h : breakOn? mark t = some (before, rest)) :
    FirstAt mark t before.length := by
  obtain ⟨rfl, hFirst⟩ := breakOn?_eq_some_iff.mp h
  exact ⟨occursAt_append before mark rest, hFirst⟩

theorem breakOn?_of_firstAt {mark t : Text} {i : Nat} (h : FirstAt mark t i) :
    ∃ rest, breakOn? mark t = some (t.take i, rest) := by
  obtain ⟨rest, hRest⟩ := occursAt_iff_exists.mp h.1
  refine ⟨rest, breakOn?_eq_some_iff.mpr ⟨?_, ?_⟩⟩
  · rw [List.append_assoc, ← hRest, List.take_append_drop]
  · rw [List.length_take_of_le h.le_length]
    exact h.2

/-- A mark of two different characters does not reach over the end of what stands before it. -/
theorem exists_occursAt_iff_infix {a b : Char} (hNe : b ≠ a) (t : Text) :
    (∃ i < t.length, OccursAt [a, b] (t ++ [a, b]) i) ↔ [a, b] <:+: t := by
  constructor
  · rintro ⟨i, hi, hOccurs⟩
    rw [OccursAt, List.drop_append_of_le_length (Nat.le_of_lt hi)] at hOccurs
    refine List.IsInfix.trans ?_ (List.drop_suffix i t).isInfix
    rcases hDrop : t.drop i with _ | ⟨c, _ | ⟨d, u⟩⟩
    · have hLength := congrArg List.length hDrop
      rw [List.length_drop, List.length_nil] at hLength
      omega
    · rw [hDrop] at hOccurs
      simp only [List.cons_append, List.nil_append, List.cons_prefix_cons] at hOccurs
      exact absurd hOccurs.2.1 hNe
    · rw [hDrop] at hOccurs
      simp only [List.cons_append, List.cons_prefix_cons] at hOccurs
      obtain ⟨rfl, rfl, _⟩ := hOccurs
      exact ⟨[], u, rfl⟩
  · rintro ⟨before, rest, rfl⟩
    refine ⟨before.length, by simp, ?_⟩
    rw [List.append_assoc]
    exact occursAt_append before [a, b] (rest ++ [a, b])

end CommandMarkup.Text
