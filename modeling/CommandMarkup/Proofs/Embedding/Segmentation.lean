import CommandMarkup.Proofs.Embedding.Agreement

/-! How a text is divided into commands of several embeddings and what stands between them, told
without a scanner: each command is the leftmost one in what is left of the text, and of those that
start together the one of the first embedding.

Main statement: there is one such division (`divides_iff`). -/
namespace CommandMarkup.Embedding

/-- The segments and the tail are what the text is divided into. -/
inductive Divides (es : List Embedding) : Text → List Segment → Text → Prop where
  | done {t : Text} (hNone : ∀ e ∈ es, ∀ i, ¬ StartsAt e t i) : Divides es t [] t
  | next {t rest tail : Text} {s : Segment} {others : List Segment} {earlier later : List Embedding}
      (hText : t = s.before ++ s.command ++ rest)
      (hLeftmost : ∀ e ∈ es, ∀ i < s.before.length, ¬ StartsAt e t i)
      (hEmbeddings : es = earlier ++ s.embedding :: later)
      (hFirst : ∀ e ∈ earlier, ¬ StartsAt e t s.before.length)
      (hSpans : Spans s.embedding t s.before.length (s.before ++ s.command).length)
      (hRest : Divides es rest others tail) : Divides es t (s :: others) tail

section FirstAt

variable {es : List Embedding} {t : Text}

theorem firstAt?_eq_none_iff : firstAt? es t = none ↔ ∀ e ∈ es, e.matchAt? t = none := by
  induction es with
  | nil => simp [firstAt?]
  | cons e es ih =>
      rw [firstAt?]
      cases hMatch : e.matchAt? t with
      | none => simp [hMatch, ih]
      | some found => simp [hMatch]

/-- Of the embeddings that match here the earliest in order counts. -/
theorem firstAt?_eq_some_iff {e : Embedding} {command rest : Text} :
    firstAt? es t = some (e, command, rest) ↔ e.matchAt? t = some (command, rest) ∧
      ∃ earlier later, es = earlier ++ e :: later ∧ ∀ f ∈ earlier, f.matchAt? t = none := by
  induction es with
  | nil => simp [firstAt?]
  | cons f es ih =>
      rw [firstAt?]
      cases hMatch : f.matchAt? t with
      | none =>
          dsimp only
          rw [ih]
          constructor
          · rintro ⟨hFound, earlier, later, rfl, hNone⟩
            exact ⟨hFound, f :: earlier, later, rfl, List.forall_mem_cons.mpr ⟨hMatch, hNone⟩⟩
          · rintro ⟨hFound, earlier, later, hSplit, hNone⟩
            cases earlier with
            | nil =>
                cases hSplit
                cases hMatch.symm.trans hFound
            | cons g earlier =>
                cases hSplit
                exact ⟨hFound, earlier, later, rfl, (List.forall_mem_cons.mp hNone).2⟩
      | some found =>
          constructor
          · intro h
            cases h
            exact ⟨hMatch, [], es, rfl, List.forall_mem_nil _⟩
          · rintro ⟨hFound, earlier, later, hSplit, hNone⟩
            cases earlier with
            | nil =>
                cases hSplit
                cases hMatch.symm.trans hFound
                rfl
            | cons g earlier =>
                cases hSplit
                have hAbsent := (List.forall_mem_cons.mp hNone).1
                cases hMatch.symm.trans hAbsent

theorem firstAt?_drop_eq_none_iff {i : Nat} :
    firstAt? es (t.drop i) = none ↔ ∀ e ∈ es, ¬ StartsAt e t i := by
  simp only [firstAt?_eq_none_iff, startsAt_iff, not_not]

/-- No command is found exactly where none starts. -/
theorem next?_eq_none_iff : next? es t = none ↔ ∀ e ∈ es, ∀ i, ¬ StartsAt e t i := by
  constructor
  · intro h e he i hStarts
    rcases Nat.lt_or_ge i t.length with hInside | hBeyond
    · exact firstAt?_drop_eq_none_iff.mp (firstAt?_of_next?_none h hInside) e he hStarts
    · rw [startsAt_iff, List.drop_eq_nil_of_le hBeyond] at hStarts
      exact hStarts (matchAt?_nil e)
  · intro h
    cases hNext : next? es t with
    | none => rfl
    | some found =>
        obtain ⟨s, rest⟩ := found
        obtain ⟨hMatch, _⟩ := firstAt?_eq_some_iff.mp (firstAt?_of_next? hNext).1
        have hMem := (firstAt?_eq_some (firstAt?_of_next? hNext).1).1
        apply absurd _ (h s.embedding hMem s.before.length)
        rw [startsAt_iff, (next?_eq_some hNext).1, List.append_assoc, List.drop_left, hMatch]
        exact Option.some_ne_none _

/-- The command that is first to start is found. -/
theorem next?_of_firstAt? {before command rest : Text} {e : Embedding}
    (hFirst : firstAt? es (command ++ rest) = some (e, command, rest))
    (hNone : ∀ i < before.length, firstAt? es ((before ++ command ++ rest).drop i) = none) :
    next? es (before ++ command ++ rest) = some (⟨before, e, command⟩, rest) := by
  induction before with
  | nil =>
      rw [List.nil_append]
      cases hText : command ++ rest with
      | nil =>
          rw [hText, firstAt?_eq_some_iff, matchAt?_nil] at hFirst
          cases hFirst.1
      | cons c t =>
          rw [hText] at hFirst
          rw [next?, hFirst]
  | cons c before ih =>
      have hHere := hNone 0 (Nat.zero_lt_succ _)
      rw [List.drop_zero] at hHere
      have hFound := ih fun i hi => hNone (i + 1) (Nat.succ_lt_succ hi)
      rw [List.cons_append, List.cons_append] at hHere ⊢
      rw [next?, hHere]
      dsimp only
      rw [hFound]
      rfl

end FirstAt

theorem segments_of_none {es : List Embedding} {t : Text} (h : next? es t = none) :
    segments es t = ([], t) := by
  rw [segments]
  split
  · rfl
  · next hNext => cases h.symm.trans hNext

theorem segments_of_some {es : List Embedding} {t rest : Text} {s : Segment}
    (h : next? es t = some (s, rest)) :
    segments es t = (s :: (segments es rest).1, (segments es rest).2) := by
  rw [segments]
  split
  · next hNone => cases h.symm.trans hNone
  · next hFound =>
    cases h.symm.trans hFound
    rfl

/-- The segments divide the text: each starts at the next place where any embedding matches, and
nothing is left out between them. -/
theorem divides_segments (es : List Embedding) (t : Text) :
    Divides es t (segments es t).1 (segments es t).2 := by
  fun_induction segments es t with
  | case1 t hNext => exact .done (next?_eq_none_iff.mp hNext)
  | case2 t s rest hNext ih =>
      obtain ⟨hText, _⟩ := next?_eq_some hNext
      obtain ⟨hFirst, hBefore⟩ := firstAt?_of_next? hNext
      obtain ⟨hMatch, earlier, later, hSplit, hNone⟩ := firstAt?_eq_some_iff.mp hFirst
      have hHere : t.drop s.before.length = s.command ++ rest := by
        rw [hText, List.append_assoc, List.drop_left]
      apply Divides.next hText _ hSplit _ _ ih
      · intro e he i hi
        exact firstAt?_drop_eq_none_iff.mp (hBefore i hi) e he
      · intro e he
        rw [startsAt_iff, hHere, not_not]
        exact hNone e he
      · rw [spans_iff, hHere]
        exact ⟨s.command, rest, hMatch, List.length_append⟩

/-- The scanner finds whatever the text is divided into. -/
theorem Divides.segments_eq {es : List Embedding} {t tail : Text} {found : List Segment}
    (h : Divides es t found tail) : segments es t = (found, tail) := by
  induction h with
  | done hNone => exact segments_of_none (next?_eq_none_iff.mpr hNone)
  | @next t rest tail s others earlier later hText hLeftmost hEmbeddings hFirst hSpans _ ih =>
      have hHere : t.drop s.before.length = s.command ++ rest := by
        rw [hText, List.append_assoc, List.drop_left]
      -- The command that spans so far is the one that stands there.
      have hMatch : s.embedding.matchAt? (s.command ++ rest) = some (s.command, rest) := by
        obtain ⟨command, after, hMatch, hLength⟩ := spans_iff.mp hSpans
        rw [hHere] at hMatch
        rw [List.length_append] at hLength
        have hSame : s.command = command :=
          List.append_inj_left (matchAt?_eq_some hMatch).1 (Nat.add_left_cancel hLength)
        subst hSame
        rw [hMatch, List.append_cancel_left (matchAt?_eq_some hMatch).1]
      have hNext : next? es t = some (s, rest) := by
        rw [hText]
        apply next?_of_firstAt?
        · apply firstAt?_eq_some_iff.mpr
          refine ⟨hMatch, earlier, later, hEmbeddings, ?_⟩
          intro e he
          have hAbsent := hFirst e he
          rwa [startsAt_iff, hHere, not_not] at hAbsent
        · intro i hi
          rw [← hText]
          exact firstAt?_drop_eq_none_iff.mpr fun e he => hLeftmost e he i hi
      rw [segments_of_some hNext, ih]

/-- A text is divided in exactly one way, and the scanner finds it. -/
theorem divides_iff {es : List Embedding} {t tail : Text} {found : List Segment} :
    Divides es t found tail ↔ segments es t = (found, tail) := by
  constructor
  · exact Divides.segments_eq
  · intro h
    have hDivides := divides_segments es t
    rwa [h] at hDivides

/-- A command that the scanner finds splits into a call text and content. -/
theorem split?_of_matchAt? {e : Embedding} {t command rest : Text}
    (h : e.matchAt? t = some (command, rest)) :
    ∃ callText content, e.split? command = some (callText, content) := by
  obtain ⟨_, callText, hCall, content, rfl, _⟩ := matchAt?_eq_some_iff.mp h
  exact ⟨callText, content, split?_of_mem_callPattern hCall content⟩

/-- Each segment can be split with the delimiters of the embedding that it was found with. -/
theorem split?_of_mem_segments {es : List Embedding} {t : Text} {segment : Segment}
    (h : segment ∈ (segments es t).1) :
    ∃ callText content, segment.embedding.split? segment.command = some (callText, content) := by
  fun_induction segments es t with
  | case1 t hNext => cases h
  | case2 t first rest hNext ih =>
      rcases List.mem_cons.mp h with rfl | hRest
      · exact split?_of_matchAt? (firstAt?_eq_some (firstAt?_of_next? hNext).1).2
      · exact ih hRest

end CommandMarkup.Embedding
