import CommandMarkup.Embedding.Segment
import CommandMarkup.Proofs.Embedding.Pattern

/-! The commands in a text as a scan over its offsets finds them, without any pattern or scanner:
where a command can start, how far it reaches, and which commands follow one another. -/
namespace CommandMarkup.Embedding

open Text (OccursAt FirstAt)

/-- The head of a command stands at the offset `start`, with its parenthesis at `paren`. -/
def HeadAt (e : Embedding) (t : Text) (start paren : Nat) : Prop :=
  ∃ callText ∈ callPattern.language, OccursAt (e.opening ++ callText ++ ['(']) t start ∧
    paren = start + e.opening.length + callText.length

/-- A command can start at the offset: a head stands there, and an ending comes after it. -/
def StartsAt (e : Embedding) (t : Text) (start : Nat) : Prop :=
  ∃ paren, HeadAt e t start paren ∧ ∃ i ≥ paren, OccursAt e.ending t i

/-- A command reaches from `start` to `stop`: its ending is the first one after its parenthesis. -/
def Spans (e : Embedding) (t : Text) (start stop : Nat) : Prop :=
  ∃ paren, HeadAt e t start paren ∧ ∃ last ≥ paren, OccursAt e.ending t last ∧
    (∀ i, paren ≤ i → i < last → ¬ OccursAt e.ending t i) ∧ stop = last + e.ending.length

/-- The commands that follow one another from an offset on: each is the leftmost one that starts
where the one before it stops or later. -/
inductive Scan (e : Embedding) (t : Text) : Nat → List Match → Prop where
  | done {offset : Nat} (hNone : ∀ i ≥ offset, ¬ StartsAt e t i) : Scan e t offset []
  | next {offset : Nat} {m : Match} {ms : List Match} (hOffset : offset ≤ m.start)
      (hLeftmost : ∀ i, offset ≤ i → i < m.start → ¬ StartsAt e t i)
      (hSpans : Spans e t m.start m.stop) (hCommand : OccursAt m.command t m.start)
      (hRest : Scan e t m.stop ms) : Scan e t offset (m :: ms)

/-- A head by offsets is what the lexer takes from there on: the opening delimiter, a call text, and
a parenthesis. -/
theorem headAt_iff {e : Embedding} {t : Text} {start paren : Nat} :
    HeadAt e t start paren ↔ ∃ callText body, e.takeHead? (t.drop start) = some (callText, body) ∧
      t.drop paren = '(' :: body ∧ paren = start + e.opening.length + callText.length := by
  simp only [takeHead?_eq_some_iff]
  constructor
  · rintro ⟨callText, hCall, hOccurs, rfl⟩
    obtain ⟨body, hBody⟩ := Text.occursAt_iff_exists.mp hOccurs
    refine ⟨callText, body, ⟨hCall, by rw [hBody]; simp⟩, ?_, rfl⟩
    rw [Nat.add_assoc, ← List.drop_drop, hBody]
    simp
  · rintro ⟨callText, body, ⟨hCall, hText⟩, _, rfl⟩
    exact ⟨callText, hCall, Text.occursAt_iff_exists.mpr ⟨body, by rw [hText]; simp⟩, rfl⟩

/-- No ending stands at a parenthesis that opens, so endings are looked for in what follows it. -/
theorem occursAt_ending_iff {e : Embedding} {t body : Text} {paren i : Nat}
    (hBody : t.drop paren = '(' :: body) (hi : paren ≤ i) :
    OccursAt e.ending t i ↔ ∃ n, i = paren + 1 + n ∧ OccursAt e.ending body n := by
  obtain ⟨k, rfl⟩ := Nat.exists_eq_add_of_le hi
  rw [← Text.occursAt_drop_iff, hBody]
  cases k with
  | zero =>
      constructor
      · intro h
        exact absurd (List.cons_prefix_cons.mp h).1 (by decide)
      · rintro ⟨n, hEq, _⟩
        omega
  | succ k =>
      constructor
      · intro h
        exact ⟨k, by omega, h⟩
      · rintro ⟨n, hEq, h⟩
        obtain rfl : n = k := by omega
        exact h

theorem length_enclose (e : Embedding) (callText content : Text) :
    (e.enclose callText content).length =
      e.opening.length + callText.length + 1 + content.length + e.ending.length := by
  simp only [enclose, List.length_append, List.length_cons]
  omega

/-- What is matched somewhere spans from there to its own length. -/
theorem spans_of_matchAt? {e : Embedding} {t command rest : Text} {start : Nat}
    (h : e.matchAt? (t.drop start) = some (command, rest)) :
    Spans e t start (start + command.length) := by
  rw [matchAt?] at h
  split at h
  · cases h
  · next callText body hHead =>
    obtain ⟨⟨content, after⟩, hBreak, hFound⟩ := Option.map_eq_some_iff.mp h
    cases hFound
    have hText := (takeHead?_eq_some_iff.mp hHead).2
    have hBody : t.drop (start + e.opening.length + callText.length) = '(' :: body := by
      rw [Nat.add_assoc, ← List.drop_drop, hText]
      simp
    obtain ⟨hOccurs, hFirst⟩ := Text.firstAt_of_breakOn? hBreak
    refine ⟨_, headAt_iff.mpr ⟨callText, body, hHead, hBody, rfl⟩,
      start + e.opening.length + callText.length + 1 + content.length, by omega,
      (occursAt_ending_iff hBody (by omega)).mpr ⟨content.length, rfl, hOccurs⟩, ?_, ?_⟩
    · intro i hi hLast hEarlier
      obtain ⟨n, rfl, hEnding⟩ := (occursAt_ending_iff hBody hi).mp hEarlier
      exact hFirst n (by omega) hEnding
    · rw [length_enclose]
      dsimp only
      omega

theorem startsAt_iff {e : Embedding} {t : Text} {start : Nat} :
    StartsAt e t start ↔ e.matchAt? (t.drop start) ≠ none := by
  simp only [StartsAt, headAt_iff]
  constructor
  · rintro ⟨paren, ⟨callText, body, hHead, hBody, _⟩, i, hi, hOccurs⟩
    obtain ⟨n, _, hEnding⟩ := (occursAt_ending_iff hBody hi).mp hOccurs
    rw [matchAt?, hHead, Ne, Option.map_eq_none_iff, Text.breakOn?_eq_none_iff]
    intro hNone
    exact hNone n hEnding
  · intro h
    obtain ⟨⟨command, rest⟩, hMatch⟩ := Option.ne_none_iff_exists'.mp h
    obtain ⟨paren, hHead, last, hLast, hOccurs, _⟩ := spans_of_matchAt? hMatch
    exact ⟨paren, headAt_iff.mp hHead, last, hLast, hOccurs⟩

/-- How far a command reaches is how far it is matched. -/
theorem spans_iff {e : Embedding} {t : Text} {start stop : Nat} :
    Spans e t start stop ↔ ∃ command rest, e.matchAt? (t.drop start) = some (command, rest) ∧
      stop = start + command.length := by
  constructor
  · rintro ⟨paren, hHead, last, hLast, hOccurs, hNone, rfl⟩
    obtain ⟨callText, body, hTake, hBody, rfl⟩ := headAt_iff.mp hHead
    obtain ⟨n, rfl, hEnding⟩ := (occursAt_ending_iff hBody hLast).mp hOccurs
    have hFirst : FirstAt e.ending body n := by
      refine ⟨hEnding, ?_⟩
      intro i hi hEarlier
      refine hNone _ ?_ ?_ ((occursAt_ending_iff hBody ?_).mpr ⟨i, rfl, hEarlier⟩) <;> omega
    obtain ⟨rest, hBreak⟩ := Text.breakOn?_of_firstAt hFirst
    refine ⟨e.enclose callText (body.take n), rest, ?_, ?_⟩
    · rw [matchAt?, hTake]
      dsimp only
      rw [hBreak]
      rfl
    · rw [length_enclose, List.length_take_of_le hFirst.le_length]
      omega
  · rintro ⟨command, rest, hMatch, rfl⟩
    exact spans_of_matchAt? hMatch

theorem Spans.startsAt {e : Embedding} {t : Text} {start stop : Nat} (h : Spans e t start stop) :
    StartsAt e t start := by
  obtain ⟨paren, hHead, last, hLast, hOccurs, _⟩ := h
  exact ⟨paren, hHead, last, hLast, hOccurs⟩

/-- A match that reaches as far as a command and holds the text there is that command. -/
theorem matchAt?_of_spans {e : Embedding} {t : Text} {m : Match} (hSpans : Spans e t m.start m.stop)
    (hCommand : OccursAt m.command t m.start) :
    ∃ rest, e.matchAt? (t.drop m.start) = some (m.command, rest) := by
  obtain ⟨command, rest, hMatch, hStop⟩ := spans_iff.mp hSpans
  obtain ⟨others, hText⟩ := Text.occursAt_iff_exists.mp hCommand
  have hLength : m.command.length = command.length := Nat.add_left_cancel hStop
  have hSame : m.command = command :=
    List.append_inj_left (hText.symm.trans (matchAt?_eq_some hMatch).1) hLength
  exact ⟨rest, hSame ▸ hMatch⟩

namespace Scan

variable {e : Embedding} {t : Text} {offset : Nat} {ms : List Match}

/-- A scan leaves no choice. -/
theorem unique {others : List Match} (h : Scan e t offset ms) (hOthers : Scan e t offset others) :
    ms = others := by
  induction h generalizing others with
  | done hNone =>
      cases hOthers with
      | done _ => rfl
      | next hOffset _ hSpans _ _ => exact absurd hSpans.startsAt (hNone _ hOffset)
  | @next offset m ms hOffset hLeftmost hSpans hCommand _ ih =>
      cases hOthers with
      | done hNone => exact absurd hSpans.startsAt (hNone _ hOffset)
      | @next _ m' ms' hOffset' hLeftmost' hSpans' hCommand' hRest' =>
          have hStart : m.start = m'.start := by
            rcases Nat.lt_trichotomy m.start m'.start with hLt | hEq | hLt
            · exact absurd hSpans.startsAt (hLeftmost' _ hOffset hLt)
            · exact hEq
            · exact absurd hSpans'.startsAt (hLeftmost _ hOffset' hLt)
          obtain ⟨rest, hMatch⟩ := matchAt?_of_spans hSpans hCommand
          obtain ⟨rest', hMatch'⟩ := matchAt?_of_spans hSpans' hCommand'
          rw [hStart, hMatch'] at hMatch
          obtain ⟨start, command⟩ := m
          obtain ⟨start', command'⟩ := m'
          obtain rfl : start = start' := hStart
          cases hMatch
          rw [ih hRest']

/-- The commands come in order and do not overlap. -/
theorem ordered (h : Scan e t offset ms) :
    (∀ m ∈ ms, offset ≤ m.start) ∧ ms.Pairwise fun m m' => m.stop ≤ m'.start := by
  induction h with
  | done _ => exact ⟨nofun, .nil⟩
  | @next offset m ms hOffset _ _ _ _ ih =>
      refine ⟨?_, .cons ih.1 ih.2⟩
      intro m' hMem
      rcases List.mem_cons.mp hMem with rfl | hMem
      · exact hOffset
      · have hStop := ih.1 m' hMem
        rw [Match.stop] at hStop
        omega

/-- Wherever a command could start, one has been found that covers the offset. -/
theorem covers (h : Scan e t offset ms) {i : Nat} (hi : offset ≤ i) (hStarts : StartsAt e t i) :
    ∃ m ∈ ms, m.start ≤ i ∧ i < m.stop := by
  induction h with
  | done hNone => exact absurd hStarts (hNone i hi)
  | @next offset m ms hOffset hLeftmost _ _ _ ih =>
      rcases Nat.lt_or_ge i m.start with hBefore | hStart
      · exact absurd hStarts (hLeftmost i hi hBefore)
      · rcases Nat.lt_or_ge i m.stop with hStop | hAfter
        · exact ⟨m, List.mem_cons_self, hStart, hStop⟩
        · obtain ⟨m', hMem, hCovers⟩ := ih hAfter
          exact ⟨m', List.mem_cons_of_mem _ hMem, hCovers⟩

/-- Each match of a scan is what is matched at its start. -/
theorem matchAt? (h : Scan e t offset ms) :
    ∀ m ∈ ms, ∃ rest, e.matchAt? (t.drop m.start) = some (m.command, rest) := by
  induction h with
  | done _ => nofun
  | next _ _ hSpans hCommand _ ih =>
      intro m hMem
      rcases List.mem_cons.mp hMem with rfl | hMem
      · exact matchAt?_of_spans hSpans hCommand
      · exact ih m hMem

end Scan

theorem matchAt?_nil (e : Embedding) : e.matchAt? [] = none := by
  cases hMatch : e.matchAt? [] with
  | none => rfl
  | some found =>
      obtain ⟨hText, callText, content, hCommand⟩ :=
        matchAt?_eq_some (show _ = some (found.1, found.2) from hMatch)
      exact absurd (hCommand ▸ (List.append_eq_nil_iff.mp hText.symm).1) (enclose_ne_nil e _ _)

theorem firstAt?_singleton (e : Embedding) (t : Text) :
    firstAt? [e] t = (e.matchAt? t).map fun found => (e, found) := by
  rw [firstAt?]
  cases e.matchAt? t <;> rfl

/-- Where no command is found in a text, none starts in it. -/
theorem firstAt?_of_next?_none {es : List Embedding} {t : Text} (h : next? es t = none) {i : Nat}
    (hi : i < t.length) : firstAt? es (t.drop i) = none := by
  induction t generalizing i with
  | nil => exact absurd hi (Nat.not_lt_zero i)
  | cons c t ih =>
      rw [next?] at h
      split at h
      · cases h
      · next hFirst =>
        cases i with
        | zero => exact hFirst
        | succ i => exact ih (Option.map_eq_none_iff.mp h) (Nat.lt_of_succ_lt_succ hi)

/-- The command that is found is the first to start. -/
theorem firstAt?_of_next? {es : List Embedding} {t rest : Text} {s : Segment}
    (h : next? es t = some (s, rest)) :
    firstAt? es (s.command ++ rest) = some (s.embedding, s.command, rest) ∧
      ∀ i < s.before.length, firstAt? es (t.drop i) = none := by
  induction t generalizing s with
  | nil => cases h
  | cons c t ih =>
      rw [next?] at h
      split at h
      · next hFirst =>
        cases h
        refine ⟨?_, fun i hi => absurd hi (Nat.not_lt_zero i)⟩
        rw [← (matchAt?_eq_some (firstAt?_eq_some hFirst).2).1]
        exact hFirst
      · next hNone =>
        obtain ⟨⟨found, after⟩, hFound, hEq⟩ := Option.map_eq_some_iff.mp h
        cases hEq
        obtain ⟨hFirst, hBefore⟩ := ih hFound
        refine ⟨hFirst, ?_⟩
        intro i hi
        cases i with
        | zero => exact hNone
        | succ i => exact hBefore i (Nat.lt_of_succ_lt_succ hi)

/-- The segments of what is left of a text are a scan from where it begins. -/
theorem scan_locate {e : Embedding} {t u : Text} {offset : Nat} (h : t.drop offset = u) :
    Scan e t offset (locate offset (segments [e] u).1) := by
  fun_induction segments [e] u generalizing offset with
  | case1 u hNext =>
      refine .done ?_
      intro i hi hStarts
      obtain ⟨k, rfl⟩ := Nat.exists_eq_add_of_le hi
      rw [startsAt_iff, ← List.drop_drop, h] at hStarts
      rcases Nat.lt_or_ge k u.length with hInside | hBeyond
      · have hNone := firstAt?_of_next?_none hNext hInside
        rw [firstAt?_singleton, Option.map_eq_none_iff] at hNone
        exact hStarts hNone
      · rw [List.drop_eq_nil_of_le hBeyond] at hStarts
        exact hStarts (matchAt?_nil e)
  | case2 u s rest hNext ih =>
      obtain ⟨hFirst, hBefore⟩ := firstAt?_of_next? hNext
      obtain ⟨hText, _⟩ := next?_eq_some hNext
      rw [firstAt?_singleton] at hFirst
      obtain ⟨_, hMatch, hEq⟩ := Option.map_eq_some_iff.mp hFirst
      cases hEq
      have hStart : t.drop (offset + s.before.length) = s.command ++ rest := by
        rw [← List.drop_drop, h, hText]
        simp
      rw [locate]
      refine .next (Nat.le_add_right _ _) ?_ ?_ ?_ (ih ?_)
      · intro i hi hLess hStarts
        obtain ⟨k, rfl⟩ := Nat.exists_eq_add_of_le hi
        have hNone := hBefore k (by dsimp only at hLess; omega)
        rw [firstAt?_singleton, Option.map_eq_none_iff] at hNone
        rw [startsAt_iff, ← List.drop_drop, h] at hStarts
        exact hStarts hNone
      · exact spans_iff.mpr ⟨s.command, rest, by dsimp only; rw [hStart, hMatch], rfl⟩
      · exact Text.occursAt_iff_exists.mpr ⟨rest, hStart⟩
      · dsimp only [Match.stop]
        rw [← List.drop_drop, hStart, List.drop_left]

theorem scan_findAll (e : Embedding) (t : Text) : Scan e t 0 (findAll e t) := scan_locate rfl

theorem matchAt?_of_mem_findAll {e : Embedding} {t : Text} {m : Match} (h : m ∈ findAll e t) :
    ∃ rest, e.matchAt? (t.drop m.start) = some (m.command, rest) :=
  (scan_findAll e t).matchAt? m h

end CommandMarkup.Embedding
