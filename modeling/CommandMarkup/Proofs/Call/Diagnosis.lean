import CommandMarkup.Proofs.Call.Pattern

/-! Why a text is no call. The diagnosis cuts the text again and looks at its pieces one by one,
while the pattern of calls matches the text as a whole, and yet it finds exactly one thing wrong
with every text that is rejected: the first one.

Main statement: `parse_diagnoses`. -/
namespace CommandMarkup

namespace Text

/-- No piece holds the separator. -/
theorem not_mem_of_mem_splitOn {sep : Char} {t piece : Text} (h : piece ∈ splitOn sep t) :
    sep ∉ piece := by
  induction t generalizing piece with
  | nil =>
      cases List.mem_singleton.mp h
      exact List.not_mem_nil
  | cons c t ih =>
      rw [splitOn] at h
      split at h
      · rcases List.mem_cons.mp h with rfl | hRest
        · exact List.not_mem_nil
        · exact ih hRest
      · next hc =>
        split at h
        · next hNil => exact absurd hNil (splitOn_ne_nil sep t)
        · next first pieces hPieces =>
          rw [hPieces] at ih
          rcases List.mem_cons.mp h with rfl | hRest
          · intro hMem
            rcases List.mem_cons.mp hMem with hSep | hFirst
            · exact hc hSep.symm
            · exact ih List.mem_cons_self hFirst
          · exact ih (List.mem_cons_of_mem _ hRest)

/-- Pieces without the separator come first when a text is cut that they are joined before. -/
theorem splitOn_join_append {sep : Char} {pieces : List Text} (hNonempty : pieces ≠ [])
    (hFree : ∀ piece ∈ pieces, sep ∉ piece) (rest : Text) :
    splitOn sep (join sep pieces ++ sep :: rest) = pieces ++ splitOn sep rest := by
  induction pieces with
  | nil => exact absurd rfl hNonempty
  | cons piece pieces ih =>
      have hPiece : sep ∉ piece := hFree piece List.mem_cons_self
      cases pieces with
      | nil => exact splitOn_append_cons hPiece rest
      | cons next pieces =>
          have hMore := ih (List.cons_ne_nil _ _) fun p hp => hFree p (List.mem_cons_of_mem _ hp)
          rw [join_cons sep piece (List.cons_ne_nil _ _), List.append_assoc, List.cons_append,
            splitOn_append_cons hPiece, hMore]
          rfl

end Text

namespace Call

/-- The name and the pieces of its parameter list, as a call would write them. -/
def written (name : Text) (pieces : List Text) : Text :=
  if pieces = [] then name else name ++ '?' :: Text.join '&' pieces

/-- The text has that name before its first question mark, and of the pieces of the list after it the
first that is no parameter comes behind the good ones. -/
structure FirstBad (t name : Text) (good : List Text) (bad : Text) : Prop where
  named : name ∈ Pattern.name
  pieces : ∃ list rest, Text.cut '?' t = (name, some list) ∧ list ≠ [] ∧
    Text.splitOn '&' list = good ++ bad :: rest
  good : ∀ piece ∈ good, piece ∈ Pattern.parameter
  bad : bad ∉ Pattern.parameter

/-- What is wrong with a text, in words. Positions count from one. -/
inductive Flaw (t : Text) : Text → Prop where
  | name {name : Text} {list? : Option Text} (hCut : Text.cut '?' t = (name, list?))
      (hName : name ∉ Pattern.name) : Flaw t ("invalid command name ".toList ++ Text.quote name)
  | bare {name : Text} (hCut : Text.cut '?' t = (name, some [])) (hName : name ∈ Pattern.name) :
      Flaw t "'?' must be followed by at least one parameter".toList
  | empty {name : Text} {good : List Text} (hFirst : FirstBad t name good []) :
      Flaw t ("empty parameter at position ".toList ++ Text.ofNat (good.length + 1))
  | malformed {name : Text} {good : List Text} {bad : Text} (hFirst : FirstBad t name good bad)
      (hBad : bad ≠ []) : Flaw t ("malformed parameter ".toList ++ Text.quote bad ++
        " at position ".toList ++ Text.ofNat (good.length + 1))

theorem not_mem_of_mem_name {name : Text} (h : name ∈ Pattern.name) : '?' ∉ name := fun hMem =>
  absurd (isNameChar_of_isName (Pattern.mem_name_iff.mp h) _ hMem) (by decide)

/-- The reader of parameters accepts a piece if and only if the grammar has it. -/
theorem parse?_isSome_iff {piece : Text} :
    (Parameter.parse? piece).isSome = true ↔ piece ∈ Pattern.parameter := by
  rw [Pattern.mem_parameter_iff, Option.isSome_iff_exists]
  simp only [Parameter.parse?_eq_some_iff]

theorem nil_not_mem_parameter : ([] : Text) ∉ Pattern.parameter := by
  rw [← parse?_isSome_iff]
  decide

theorem parseAll?_isSome_iff {pieces : List Text} :
    (Parameter.parseAll? pieces).isSome = true ↔ ∀ piece ∈ pieces, piece ∈ Pattern.parameter := by
  rw [Option.isSome_iff_exists]
  constructor
  · rintro ⟨ps, hAll⟩
    exact Pattern.mem_parameter_of_parseAll? hAll
  · exact Pattern.exists_parseAll?_of_mem

/-- A text is read if it has a name before its first question mark and all pieces of the list after
it are parameters, and only then. -/
theorem parse_cut_iff {t name : Text} {list? : Option Text}
    (hCut : Text.cut '?' t = (name, list?)) :
    (∃ call, parse t = .ok call) ↔ name ∈ Pattern.name ∧
      ∀ list, list? = some list → ∀ piece ∈ Text.splitOn '&' list, piece ∈ Pattern.parameter := by
  have hRead : (∃ call, parse t = .ok call) ↔ (read? t).isSome = true := by
    simp only [parse_eq_ok_iff, Option.isSome_iff_exists, read?_eq_some_iff]
    constructor
    · rintro ⟨call, raw, hWrites, _⟩
      exact ⟨raw, hWrites⟩
    · rintro ⟨raw, hWrites⟩
      exact ⟨_, raw, hWrites, rfl⟩
  rw [hRead, read?, hCut, Pattern.mem_name_iff]
  cases list? with
  | none =>
      dsimp only
      cases isName name with
      | true => simp
      | false => simp
  | some list =>
      dsimp only
      cases isName name with
      | true => simp [parseAll?_isSome_iff]
      | false => simp

/-- Of pieces that are not all parameters, one is the first bad one. -/
theorem exists_first_bad {pieces : List Text} (h : ¬ ∀ piece ∈ pieces, piece ∈ Pattern.parameter) :
    ∃ good bad rest, pieces = good ++ bad :: rest ∧
      (∀ piece ∈ good, piece ∈ Pattern.parameter) ∧ bad ∉ Pattern.parameter := by
  induction pieces with
  | nil => exact absurd (fun piece hPiece => absurd hPiece List.not_mem_nil) h
  | cons piece pieces ih =>
      by_cases hPiece : piece ∈ Pattern.parameter
      · have hRest : ¬ ∀ p ∈ pieces, p ∈ Pattern.parameter := fun hAll =>
          h (List.forall_mem_cons.mpr ⟨hPiece, hAll⟩)
        obtain ⟨good, bad, rest, rfl, hGood, hBad⟩ := ih hRest
        exact ⟨piece :: good, bad, rest, rfl, List.forall_mem_cons.mpr ⟨hPiece, hGood⟩, hBad⟩
      · exact ⟨[], piece, pieces, rfl, fun p hp => absurd hp List.not_mem_nil, hPiece⟩

/-- Good pieces are passed over, and counted. -/
theorem diagnosePieces_append {good : List Text}
    (hGood : ∀ piece ∈ good, piece ∈ Pattern.parameter) (position : Nat) (rest : List Text) :
    diagnosePieces position (good ++ rest) = diagnosePieces (position + good.length) rest := by
  induction good generalizing position with
  | nil => rfl
  | cons piece good ih =>
      obtain ⟨hPiece, hMore⟩ := List.forall_mem_cons.mp hGood
      have hNonempty : piece.isEmpty = false := by
        rw [List.isEmpty_eq_false_iff]
        rintro rfl
        exact nil_not_mem_parameter hPiece
      have hRead : (Parameter.parse? piece).isNone = false := by
        rw [Option.isNone_eq_false_iff]
        exact parse?_isSome_iff.mpr hPiece
      rw [List.cons_append, diagnosePieces, hNonempty, hRead, if_neg Bool.false_ne_true,
        if_neg Bool.false_ne_true, ih hMore, List.length_cons, Nat.add_assoc, Nat.add_comm 1]

/-- Where the name is right and something follows the question mark, the diagnosis goes through the
pieces and counts them from one. -/
theorem diagnose_list {t name list : Text} (hCut : Text.cut '?' t = (name, some list))
    (hName : name ∈ Pattern.name) (hList : list ≠ []) :
    diagnose t = diagnosePieces 1 (Text.splitOn '&' list) := by
  have hSome : some list ≠ some [] := fun h => hList (Option.some.inj h)
  rw [diagnose, hCut]
  dsimp only
  rw [Pattern.mem_name_iff.mp hName, Bool.not_true, if_neg Bool.false_ne_true, if_neg hSome]
  rfl

/-- The diagnosis is about the first bad piece and gives its position. An empty piece has a reason
of its own. -/
theorem FirstBad.diagnose_eq {t name bad : Text} {good : List Text} (h : FirstBad t name good bad) :
    diagnose t =
      if bad = [] then .emptyParameter (good.length + 1)
      else .malformedParameter bad (good.length + 1) := by
  obtain ⟨list, rest, hCut, hList, hPieces⟩ := h.pieces
  have hRead : (Parameter.parse? bad).isNone = true := by
    rw [Option.isNone_iff_eq_none, ← Option.not_isSome_iff_eq_none]
    exact fun hSome => h.bad (parse?_isSome_iff.mp hSome)
  rw [diagnose_list hCut h.named hList, hPieces, diagnosePieces_append h.good, diagnosePieces, hRead,
    if_pos rfl, Nat.add_comm 1]
  simp only [List.isEmpty_iff]

/-- Whatever is wrong with a text, the diagnosis says so. -/
theorem Flaw.eq_message {t words : Text} (h : Flaw t words) : words = (diagnose t).message := by
  cases h with
  | name hCut hName =>
      rw [Pattern.mem_name_iff, Bool.not_eq_true] at hName
      rw [diagnose, hCut]
      dsimp only
      rw [hName]
      rfl
  | bare hCut hName =>
      rw [diagnose, hCut]
      dsimp only
      rw [Pattern.mem_name_iff.mp hName]
      rfl
  | empty hFirst =>
      rw [hFirst.diagnose_eq, if_pos rfl]
      rfl
  | malformed hFirst hBad =>
      rw [hFirst.diagnose_eq, if_neg hBad]
      rfl

/-- Something is wrong with every text that is rejected. -/
theorem exists_flaw {t : Text} (h : ∀ call, parse t ≠ .ok call) : ∃ words, Flaw t words := by
  have hRejected : ¬ ∃ call, parse t = .ok call := not_exists.mpr h
  rcases hCut : Text.cut '?' t with ⟨name, list?⟩
  by_cases hName : name ∈ Pattern.name
  · cases list? with
    | none =>
        exact absurd ((parse_cut_iff hCut).mpr ⟨hName, nofun⟩) hRejected
    | some list =>
        by_cases hList : list = []
        · subst hList
          exact ⟨_, .bare hCut hName⟩
        · have hNotAll : ¬ ∀ piece ∈ Text.splitOn '&' list, piece ∈ Pattern.parameter := by
            intro hAll
            refine hRejected ((parse_cut_iff hCut).mpr ⟨hName, ?_⟩)
            intro given hGiven
            cases hGiven
            exact hAll
          obtain ⟨good, bad, rest, hPieces, hGood, hBad⟩ := exists_first_bad hNotAll
          have hFirst : FirstBad t name good bad :=
            ⟨hName, ⟨list, rest, hCut, hList, hPieces⟩, hGood, hBad⟩
          by_cases hEmpty : bad = []
          · subst hEmpty
            exact ⟨_, .empty hFirst⟩
          · exact ⟨_, .malformed hFirst hEmpty⟩
  · exact ⟨_, .name hCut hName⟩

/-- What is wrong with a text is never left open. -/
theorem Flaw.ne_unexplained {t words : Text} (h : Flaw t words) :
    words ≠ "does not match call grammar".toList := by
  intro hWords
  have hHead := congrArg List.head? hWords
  cases h with
  | name => exact absurd (Option.some.inj hHead) (by decide)
  | bare => exact absurd (Option.some.inj hHead) (by decide)
  | empty => exact absurd (Option.some.inj hHead) (by decide)
  | malformed => exact absurd (Option.some.inj hHead) (by decide)

/-- Up to the first bad piece the text is a call. -/
theorem FirstBad.parse_before {t name bad : Text} {good : List Text}
    (h : FirstBad t name good bad) : ∃ call, parse (written name good) = .ok call := by
  rw [written]
  split
  · have hCut : Text.cut '?' name = (name, none) :=
      Text.cut_eq_none_iff.mpr ⟨rfl, not_mem_of_mem_name h.named⟩
    exact (parse_cut_iff hCut).mpr ⟨h.named, nofun⟩
  · next hNonempty =>
    have hCut : Text.cut '?' (name ++ '?' :: Text.join '&' good) =
        (name, some (Text.join '&' good)) :=
      Text.cut_eq_some_iff.mpr ⟨rfl, not_mem_of_mem_name h.named⟩
    refine (parse_cut_iff hCut).mpr ⟨h.named, ?_⟩
    intro list hList
    cases hList
    rw [Text.splitOn_join hNonempty fun piece hPiece =>
      Pattern.not_mem_of_mem_parameter (h.good piece hPiece)]
    exact h.good

/-- Nothing that goes on behind the first bad piece is a call. -/
theorem FirstBad.parse_after {t name bad : Text} {good : List Text} (h : FirstBad t name good bad)
    {longer : Text} (hLonger : written name (good ++ [bad]) ++ ['&'] <+: longer) :
    ∀ call, parse longer ≠ .ok call := by
  obtain ⟨more, rfl⟩ := hLonger
  obtain ⟨list, rest, _, _, hPieces⟩ := h.pieces
  have hNonempty : good ++ [bad] ≠ [] := List.append_ne_nil_of_right_ne_nil _ (List.cons_ne_nil _ _)
  have hFree : ∀ piece ∈ good ++ [bad], '&' ∉ piece := by
    intro piece hPiece
    apply Text.not_mem_of_mem_splitOn (t := list)
    rw [hPieces, List.append_cons]
    exact List.mem_append_left _ hPiece
  have hText : written name (good ++ [bad]) ++ ['&'] ++ more =
      name ++ '?' :: (Text.join '&' (good ++ [bad]) ++ '&' :: more) := by
    rw [written, if_neg hNonempty]
    simp only [List.append_assoc, List.cons_append, List.nil_append]
  have hCut : Text.cut '?' (written name (good ++ [bad]) ++ ['&'] ++ more) =
      (name, some (Text.join '&' (good ++ [bad]) ++ '&' :: more)) :=
    Text.cut_eq_some_iff.mpr ⟨hText, not_mem_of_mem_name h.named⟩
  rw [← not_exists, parse_cut_iff hCut]
  rintro ⟨_, hAll⟩
  have hPiece := hAll _ rfl bad
  rw [Text.splitOn_join_append hNonempty hFree, List.append_assoc] at hPiece
  exact h.bad (hPiece (List.mem_append_right _ List.mem_cons_self))

/-- Nothing is left to say of a text that is a call with a parameter list, and of no other. -/
theorem message_diagnose_iff {t : Text} :
    (diagnose t).message = "does not match call grammar".toList ↔
      (∃ call, parse t = .ok call) ∧ '?' ∈ t := by
  constructor
  · intro hMessage
    have hRead : ∃ call, parse t = .ok call := by
      by_contra hRejected
      obtain ⟨words, hFlaw⟩ := exists_flaw (not_exists.mp hRejected)
      exact hFlaw.ne_unexplained (hFlaw.eq_message.trans hMessage)
    refine ⟨hRead, ?_⟩
    by_contra hFree
    have hCut : Text.cut '?' t = (t, none) := Text.cut_eq_none_iff.mpr ⟨rfl, hFree⟩
    have hName := Pattern.mem_name_iff.mp ((parse_cut_iff hCut).mp hRead).1
    have hNone : diagnose t = .emptyParameter 1 := by
      rw [diagnose, hCut]
      dsimp only
      rw [hName]
      rfl
    rw [hNone] at hMessage
    exact absurd hMessage (by decide)
  · rintro ⟨hRead, hMark⟩
    rcases hCut : Text.cut '?' t with ⟨name, list?⟩
    cases list? with
    | none => exact absurd hMark (Text.cut_eq_none_iff.mp hCut).2
    | some list =>
        obtain ⟨hName, hList⟩ := (parse_cut_iff hCut).mp hRead
        have hAll := hList list rfl
        have hNonempty : list ≠ [] := by
          rintro rfl
          exact nil_not_mem_parameter (hAll [] List.mem_cons_self)
        have hPassed := diagnosePieces_append hAll 1 []
        rw [List.append_nil] at hPassed
        rw [diagnose_list hCut hName hNonempty, hPassed]
        rfl

/-- A text that is refused is refused for what the diagnosis says of it. -/
theorem parse_rejected {t : Text} (hNonempty : t ≠ []) (h : ∀ call, parse t ≠ .ok call) :
    parse t = .error ⟨t, diagnose t⟩ := by
  have hText : ¬ t.isEmpty = true := by simpa using hNonempty
  cases hParse : parse? t with
  | none => rw [parse, if_neg hText, hParse]
  | some call => exact absurd (by rw [parse, if_neg hText, hParse]) (h call)

/-- Every text that is rejected, but the empty one, is rejected for the one thing that is wrong with
it. Where that is a piece of the parameter list, the text is a call up to the piece and is none
however it goes on behind it. The diagnosis runs out of reasons exactly on calls with a parameter
list, and so never in a rejection. -/
theorem parse_diagnoses :
    (∀ t : Text, t ≠ [] → (∀ call, parse t ≠ .ok call) →
      ∃ reason, parse t = .error ⟨t, reason⟩ ∧ ∀ words, Flaw t words ↔ words = reason.message) ∧
    (∀ t name good bad, FirstBad t name good bad →
      (∃ call, parse (written name good) = .ok call) ∧
      ∀ longer, written name (good ++ [bad]) ++ ['&'] <+: longer →
        ∀ call, parse longer ≠ .ok call) ∧
    (∀ t, (diagnose t).message = "does not match call grammar".toList ↔
      (∃ call, parse t = .ok call) ∧ '?' ∈ t) ∧
    ∀ t rejection, parse t = .error rejection →
      rejection.reason.message ≠ "does not match call grammar".toList := by
  refine ⟨?_, ?_, fun t => message_diagnose_iff, ?_⟩
  · intro t hNonempty hRejected
    refine ⟨diagnose t, parse_rejected hNonempty hRejected, ?_⟩
    intro words
    constructor
    · exact Flaw.eq_message
    · rintro rfl
      obtain ⟨words, hFlaw⟩ := exists_flaw hRejected
      rwa [← hFlaw.eq_message]
  · intro t name good bad hFirst
    exact ⟨hFirst.parse_before, fun longer => hFirst.parse_after⟩
  · intro t rejection hError
    by_cases hEmpty : t = []
    · subst hEmpty
      cases hError
      decide
    · have hRejected : ∀ call, parse t ≠ .ok call := by
        intro call hOk
        cases hError.symm.trans hOk
      rw [parse_rejected hEmpty hRejected] at hError
      cases hError
      intro hMessage
      exact not_exists.mpr hRejected (message_diagnose_iff.mp hMessage).1

/-- A list whose third piece is missing and whose fourth is malformed. -/
theorem parse_diagnoses_empty_piece :
    let t := "Do?a&b=&&=c".toList
    t ≠ [] ∧ (∀ call, parse t ≠ .ok call) ∧
      FirstBad t "Do".toList ["a".toList, "b=".toList] [] ∧
      (∃ reason, parse t = .error ⟨t, reason⟩ ∧
        reason.message = "empty parameter at position 3".toList) ∧
      (∃ call, parse "Do?a&b=".toList = .ok call) ∧
      (∀ call, parse "Do?a&b=&&c".toList ≠ .ok call) ∧
      (diagnose "Do?a&b=".toList).message = "does not match call grammar".toList := by
  intro t
  have hNonempty : t ≠ [] := List.cons_ne_nil _ _
  have hRejected : ∀ call, parse t ≠ .ok call := nofun
  have hGood : ∀ piece ∈ ["a".toList, "b=".toList], piece ∈ Pattern.parameter :=
    parseAll?_isSome_iff.mp (by decide)
  have hFirst : FirstBad t "Do".toList ["a".toList, "b=".toList] [] :=
    ⟨Pattern.mem_name_iff.mpr (by decide),
      ⟨"a&b=&&=c".toList, ["=c".toList], by decide, by decide, by decide⟩, hGood,
      nil_not_mem_parameter⟩
  obtain ⟨hReason, hAround, hOpen, _⟩ := parse_diagnoses
  obtain ⟨reason, hError, hFlaws⟩ := hReason t hNonempty hRejected
  obtain ⟨hBefore, hAfter⟩ := hAround t _ _ _ hFirst
  refine ⟨hNonempty, hRejected, hFirst, ⟨reason, hError, ?_⟩, hBefore,
    hAfter "Do?a&b=&&c".toList ⟨"c".toList, by decide⟩, ?_⟩
  · exact ((hFlaws _).mp (.empty hFirst)).symm
  · exact (hOpen "Do?a&b=".toList).mpr ⟨hBefore, by decide⟩

end Call

end CommandMarkup
