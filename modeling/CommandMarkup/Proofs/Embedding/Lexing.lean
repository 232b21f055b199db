import CommandMarkup.Proofs.Embedding.Scan

/-! The commands that are found in a text are those that a scan from its start finds, and the
matches of the pattern.

Main statement: what is found, and where the content of a command is cut (`findAll_lexes`). -/
namespace CommandMarkup.Embedding

open Text (OccursAt FirstAt)

/-- How the commands of a text are found. A matcher tries the matches of the pattern and nothing
else. There are some exactly where a command can start, and the first that is tried ends where that
command does. The commands found are those of the scan from the start of the text; nothing between
them could have started one. -/
structure Lexing (e : Embedding) (t : Text) : Prop where
  tries : ∀ i rest, rest ∈ e.pattern.rests (t.drop i) ↔
    ∃ command ∈ e.pattern.language, t.drop i = command ++ rest
  starts : ∀ i, e.pattern.rests (t.drop i) ≠ [] ↔ StartsAt e t i
  first : ∀ i rest, (e.pattern.rests (t.drop i)).head? = some rest ↔
    ∃ stop, Spans e t i stop ∧ t.drop stop = rest
  scan : ∀ ms, Scan e t 0 ms ↔ ms = findAll e t
  nonempty : ∀ m ∈ findAll e t, m.command ≠ []
  ordered : (findAll e t).Pairwise fun m m' => m.stop ≤ m'.start
  covered : ∀ i, StartsAt e t i → ∃ m ∈ findAll e t, m.start ≤ i ∧ i < m.stop

/-- The matches in a text are the leftmost ones that do not overlap, and each is as short as it can
be. -/
theorem lexing (e : Embedding) (t : Text) : Lexing e t where
  tries := fun i rest => Text.Regex.mem_rests_iff
  starts := by
    intro i
    rw [startsAt_iff, Ne, ← List.head?_eq_none_iff, head?_rests_pattern, Option.map_eq_none_iff]
  first := by
    intro i rest
    simp only [head?_rests_pattern, spans_iff, Option.map_eq_some_iff]
    constructor
    · rintro ⟨⟨command, rest⟩, hMatch, rfl⟩
      refine ⟨_, ⟨command, rest, hMatch, rfl⟩, ?_⟩
      rw [← List.drop_drop, (matchAt?_eq_some hMatch).1, List.drop_left]
    · rintro ⟨_, ⟨command, rest, hMatch, rfl⟩, rfl⟩
      refine ⟨(command, rest), hMatch, ?_⟩
      rw [← List.drop_drop, (matchAt?_eq_some hMatch).1, List.drop_left]
  scan := by
    intro ms
    constructor
    · intro hScan
      exact hScan.unique (scan_findAll e t)
    · rintro rfl
      exact scan_findAll e t
  nonempty := by
    intro m hMem
    obtain ⟨rest, hMatch⟩ := matchAt?_of_mem_findAll hMem
    obtain ⟨_, callText, content, hCommand⟩ := matchAt?_eq_some hMatch
    rw [hCommand]
    exact enclose_ne_nil e callText content
  ordered := (scan_findAll e t).ordered.2
  covered := by
    intro i hStarts
    exact (scan_findAll e t).covers (Nat.zero_le i) hStarts

/-- A command that stands at the start of a text is the first that is found. -/
theorem head?_findAll {e : Embedding} {t command rest : Text}
    (h : e.matchAt? t = some (command, rest)) : (findAll e t).head? = some ⟨0, command⟩ := by
  have hText := (matchAt?_eq_some h).1
  let m : Match := ⟨0, command⟩
  have hRest : t.drop m.stop = rest := by
    rw [Match.stop, Nat.zero_add, hText, List.drop_left]
  have hScan : Scan e t 0 (m :: locate m.stop (segments [e] rest).1) := by
    refine .next (Nat.le_refl 0) ?_ ?_ ?_ (scan_locate hRest)
    · intro i _ hi
      exact absurd hi (Nat.not_lt_zero i)
    · exact spans_iff.mpr ⟨command, rest, h, rfl⟩
    · exact Text.occursAt_iff_exists.mpr ⟨rest, hText⟩
  rw [← ((lexing e t).scan _).mp hScan]
  rfl

/-- What becomes of a call and a content that are enclosed at the start of a text: the command
found there keeps the call and as much of the content as stands before the first ending. -/
structure Anchored (e : Embedding) (callText content after kept : Text) : Prop where
  matched : ∃ rest, (e.pattern.rests (e.enclose callText content ++ after)).head? = some rest ∧
    e.enclose callText content ++ after = e.enclose callText kept ++ rest
  found : (findAll e (e.enclose callText content ++ after)).head? =
    some ⟨0, e.enclose callText kept⟩
  split : e.split? (e.enclose callText kept) = some (callText, kept)
  whole : kept = content ↔ ∀ i < content.length, ¬ OccursAt e.ending (content ++ e.ending) i
  cut : kept ≠ content →
    ∃ i < content.length, FirstAt e.ending (content ++ e.ending) i ∧ kept = content.take i
  single : ∀ x, e.closing = [x] → x ≠ ')' → (kept = content ↔ ¬ [')', x] <:+: content)

/-- Within the content, whether an ending stands somewhere does not depend on the text after it. -/
theorem occursAt_content_iff {e : Embedding} {content after : Text} {i : Nat}
    (hi : i ≤ content.length) :
    OccursAt e.ending (content ++ e.ending ++ after) i ↔
      OccursAt e.ending (content ++ e.ending) i :=
  Text.occursAt_append_iff (by rw [List.length_append]; omega) after

/-- What is enclosed is matched from its start to the first ending after the call. The content may
have that ending in it, and is cut there. -/
theorem anchored {e : Embedding} {callText : Text} (hCall : callText ∈ callPattern.language)
    (content after : Text) : ∃ kept, Anchored e callText content after kept := by
  have hText : e.enclose callText content ++ after =
      e.opening ++ callText ++ '(' :: (content ++ e.ending ++ after) := by
    simp [enclose]
  have hEnding : OccursAt e.ending (content ++ e.ending ++ after) content.length :=
    Text.occursAt_append content e.ending after
  obtain ⟨⟨kept, rest⟩, hBreak⟩ : ∃ parts,
      Text.breakOn? e.ending (content ++ e.ending ++ after) = some parts := by
    rw [← Option.ne_none_iff_exists', Ne, Text.breakOn?_eq_none_iff]
    intro hNone
    exact hNone _ hEnding
  have hBody := Text.eq_append_of_breakOn? hBreak
  obtain ⟨hKept, hFirst⟩ := Text.firstAt_of_breakOn? hBreak
  have hLength : kept.length ≤ content.length := by
    apply Nat.le_of_not_lt
    intro hLt
    exact hFirst _ hLt hEnding
  have hTake : kept = content.take kept.length := by
    have hPrefix := congrArg (List.take kept.length) hBody
    rw [List.append_assoc, List.append_assoc, List.take_left,
      List.take_append_of_le_length hLength] at hPrefix
    exact hPrefix.symm
  have hMatch : e.matchAt? (e.enclose callText content ++ after) =
      some (e.enclose callText kept, rest) := by
    rw [matchAt?, takeHead?_eq_some_iff.mpr ⟨hCall, hText⟩]
    dsimp only
    rw [hBreak]
    rfl
  have hWhole : kept = content ↔
      ∀ i < content.length, ¬ OccursAt e.ending (content ++ e.ending) i := by
    constructor
    · rintro rfl i hi hOccurs
      exact hFirst i hi ((occursAt_content_iff (Nat.le_of_lt hi)).mpr hOccurs)
    · intro hNone
      have hNotLess : ¬ kept.length < content.length := by
        intro hLess
        exact hNone _ hLess ((occursAt_content_iff hLength).mp hKept)
      rw [hTake, List.take_of_length_le (Nat.le_of_not_lt hNotLess)]
  refine ⟨kept, ⟨rest, ?_, (matchAt?_eq_some hMatch).1⟩, head?_findAll hMatch,
    split?_eq_some_iff.mpr ⟨rfl, not_mem_of_mem_callPattern hCall⟩, hWhole, ?_, ?_⟩
  · rw [head?_rests_pattern, hMatch]
    rfl
  · intro hNe
    have hLess : kept.length < content.length := by
      apply Nat.lt_of_le_of_ne hLength
      intro hEq
      rw [hEq, List.take_length] at hTake
      exact hNe hTake
    refine ⟨kept.length, hLess, ⟨(occursAt_content_iff hLength).mp hKept, ?_⟩, hTake⟩
    intro i hi hOccurs
    exact hFirst i hi ((occursAt_content_iff (by omega)).mpr hOccurs)
  · intro x hClosing hx
    rw [hWhole, ← Text.exists_occursAt_iff_infix hx, ending, hClosing]
    simp only [not_exists, not_and]

/-- In every text exactly the commands are found that a scan finds, which are the successive
matches of the pattern. Whatever call is enclosed with whatever content, the command found where it
starts splits into that call and that content, unless an ending comes before the one put there; then
the content is cut at the first. -/
theorem findAll_lexes (e : Embedding) :
    (∀ t, Lexing e t) ∧
      ∀ callText ∈ callPattern.language, ∀ content after, ∃ kept,
        Anchored e callText content after kept :=
  ⟨lexing e, fun _ hCall content after => anchored hCall content after⟩

/-- Where the closing delimiter is a parenthesis too, the parenthesis that closes the content can
be taken for a delimiter: the content is cut one character short. -/
theorem findAll_lexes_overlap :
    ['a'] ∈ callPattern.language ∧
      Anchored ⟨.inline, [], [')']⟩ ['a'] ['b', ')'] ['c'] ['b'] ∧
      Lexing ⟨.inline, [], [')']⟩ ['a', '(', 'b', ')', ')', ')', 'c'] := by
  have hCall : ['a'] ∈ callPattern.language := mem_callPattern_iff.mpr ⟨['a'], rfl, .inl rfl⟩
  obtain ⟨hLexing, hAnchored⟩ := findAll_lexes ⟨.inline, [], [')']⟩
  obtain ⟨kept, h⟩ := hAnchored ['a'] hCall ['b', ')'] ['c']
  have hKept : kept = ['b'] := by
    have hNe : kept ≠ ['b', ')'] := by
      rw [Ne, h.whole]
      decide
    obtain ⟨i, hi, ⟨hOccurs, _⟩, rfl⟩ := h.cut hNe
    match i, hi with
    | 0, _ => exact absurd hOccurs (by decide)
    | 1, _ => rfl
  exact ⟨hCall, hKept ▸ h, hLexing _⟩

end CommandMarkup.Embedding
