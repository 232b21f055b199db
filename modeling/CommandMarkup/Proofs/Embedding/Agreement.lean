import CommandMarkup.Proofs.Embedding.Scan
import CommandMarkup.Proofs.Prepared.Phases

/-! The three readers of a delimited command beside one another: the pattern tells commands from
text, the splitter takes one apart, and the parser reads the call. What the pattern has matched is
never refused by the splitter, so recognizing it goes on to the parser and the registry.

Main statement: on every text and with any delimiters they agree (`readers_agree`). -/
namespace CommandMarkup

namespace Call

/-- The reason is about the parameter list, and not about the name or the text as a whole. -/
inductive Reason.AboutList : Reason → Prop where
  | noParameters : AboutList .noParameters
  | emptyParameter (position : Nat) : AboutList (.emptyParameter position)
  | malformedParameter (parameter : Text) (position : Nat) :
      AboutList (.malformedParameter parameter position)

/-- A list of pieces of which one cannot be read has a bad piece. -/
theorem aboutList_diagnosePieces {pieces : List Text}
    (h : Parameter.parseAll? pieces = none) (position : Nat) :
    (diagnosePieces position pieces).AboutList := by
  induction pieces generalizing position with
  | nil => cases h
  | cons piece pieces ih =>
      rw [diagnosePieces]
      by_cases hEmpty : piece.isEmpty = true
      · rw [if_pos hEmpty]
        exact .emptyParameter position
      · rw [if_neg hEmpty]
        cases hPiece : Parameter.parse? piece with
        | none => exact .malformedParameter piece position
        | some p =>
            have hRest : Parameter.parseAll? pieces = none := by
              cases hPieces : Parameter.parseAll? pieces with
              | none => rfl
              | some ps =>
                  rw [Parameter.parseAll?, hPiece, hPieces] at h
                  cases h
            exact ih hRest (position + 1)

/-- A text that the pattern of calls matches has nothing wrong with it but its list. -/
theorem aboutList_of_mem_callPattern {t : Text} {rejection : Rejection}
    (hCall : t ∈ Embedding.callPattern.language) (h : parse t = .error rejection) :
    rejection.callText = t ∧ rejection.reason.AboutList := by
  obtain ⟨name, hName, hText⟩ := Embedding.mem_callPattern_iff.mp hCall
  rcases hText with rfl | ⟨list, _, rfl⟩
  · have hOk : parse t = .ok (lowered ⟨t, []⟩) := parse_eq_ok_iff.mpr ⟨_, .plain hName, rfl⟩
    rw [hOk] at h
    cases h
  · have hFree : '?' ∉ name := fun hMem =>
      absurd (isNameChar_of_isName hName _ hMem) (by decide)
    have hCut : Text.cut '?' (name ++ '?' :: list) = (name, some list) :=
      Text.cut_eq_some_iff.mpr ⟨rfl, hFree⟩
    have hNonempty : ¬ (name ++ '?' :: list).isEmpty = true := by simp
    rw [parse, if_neg hNonempty] at h
    split at h
    · cases h
    · next hParse =>
      cases h
      refine ⟨rfl, ?_⟩
      rw [parse?, Option.map_eq_none_iff, read?, hCut] at hParse
      dsimp only at hParse ⊢
      rw [if_pos hName, Option.map_eq_none_iff] at hParse
      rw [diagnose, hCut]
      dsimp only
      rw [hName, Bool.not_true, if_neg Bool.false_ne_true]
      split
      · exact .noParameters
      · exact aboutList_diagnosePieces hParse 1

end Call

namespace Embedding

open Text (OccursAt)

/-- The command splits at a parenthesis, by offsets alone: the opening delimiter and the ending
stand at its two ends, the parenthesis is the first one after the opening delimiter, and the ending
does not begin before it. -/
structure SplitsAt (e : Embedding) (command : Text) (paren : Nat) : Prop where
  opens : e.opening <+: command
  ends : e.ending <:+ command
  after : e.opening.length ≤ paren
  stands : command[paren]? = some '('
  first : ∀ i, e.opening.length ≤ i → i < paren → command[i]? ≠ some '('
  within : paren + e.ending.length ≤ command.length

/-- A command that is enclosed splits at the parenthesis after its call text, if the call text has
none itself. -/
theorem splitsAt_enclose {e : Embedding} {callText : Text} (hFree : '(' ∉ callText)
    (content : Text) :
    SplitsAt e (e.enclose callText content) (e.opening ++ callText).length := by
  rw [enclose_eq_head]
  refine ⟨?_, ?_, ?_, ?_, ?_, ?_⟩
  · rw [List.append_assoc]
    exact List.prefix_append _ _
  · rw [← List.cons_append, ← List.append_assoc]
    exact List.suffix_append _ _
  · rw [List.length_append]
    omega
  · rw [List.getElem?_append_right (Nat.le_refl _), Nat.sub_self]
    rfl
  · intro i hi hLess hParen
    rw [List.getElem?_append_left hLess, List.getElem?_append_right hi] at hParen
    exact hFree (List.mem_of_getElem? hParen)
  · simp only [List.length_append, List.length_cons]
    omega

/-- A command that splits at an offset is enclosed as the two parts that are cut out around it. -/
theorem SplitsAt.eq_enclose {e : Embedding} {command : Text} {paren : Nat}
    (h : SplitsAt e command paren) :
    command = e.enclose ((command.take paren).drop e.opening.length)
        ((command.take (command.length - e.ending.length)).drop (paren + 1)) ∧
      '(' ∉ (command.take paren).drop e.opening.length := by
  obtain ⟨hParen, hStands⟩ := List.getElem?_eq_some_iff.mp h.stands
  obtain ⟨callText, hCall⟩ := List.prefix_take_iff.mpr ⟨h.opens, h.after⟩
  obtain ⟨front, rfl⟩ := h.ends
  have hFront :
      (front ++ e.ending).take ((front ++ e.ending).length - e.ending.length) = front := by
    rw [List.length_append, Nat.add_sub_cancel, List.take_left]
  rw [hFront, ← hCall, List.drop_left]
  -- The ending begins with another parenthesis, so there is room for it only behind this one.
  have hInside : paren < front.length := by
    have hWithin := h.within
    rw [List.length_append] at hWithin
    rcases Nat.lt_or_ge paren front.length with hLess | hLate
    · exact hLess
    · obtain rfl : paren = front.length := by omega
      simp only [List.getElem_append_right (Nat.le_refl _), Nat.sub_self] at hStands
      exact absurd (show ')' = '(' from hStands) (by decide)
  constructor
  · rw [enclose_eq_head, hCall, ← List.drop_append_of_le_length hInside, ← hStands,
      ← List.drop_eq_getElem_cons hParen, List.take_append_drop]
  · intro hMem
    obtain ⟨k, hk⟩ := List.mem_iff_getElem?.mp hMem
    have hIndex : ((front ++ e.ending).take paren)[e.opening.length + k]? = some '(' := by
      rw [← hCall, List.getElem?_append_right (Nat.le_add_right _ _), Nat.add_sub_cancel_left, hk]
    have hLess : e.opening.length + k < paren := by
      have hLength := (List.getElem?_eq_some_iff.mp hIndex).1
      rw [List.length_take] at hLength
      omega
    rw [List.getElem?_take_of_lt hLess] at hIndex
    exact h.first _ (Nat.le_add_right _ _) hLess hIndex

/-- The splitter in terms of offsets: it cuts at the first parenthesis after the opening delimiter,
and at the ending. -/
theorem split?_eq_some_iff_splitsAt {e : Embedding} {command callText content : Text} :
    e.split? command = some (callText, content) ↔ ∃ paren, SplitsAt e command paren ∧
      callText = (command.take paren).drop e.opening.length ∧
      content = (command.take (command.length - e.ending.length)).drop (paren + 1) := by
  rw [split?_eq_some_iff]
  constructor
  · rintro ⟨rfl, hFree⟩
    refine ⟨_, splitsAt_enclose hFree content, ?_, ?_⟩
    · rw [enclose_eq_head, List.take_left, List.drop_left]
    · have hFront : (e.enclose callText content).take
          ((e.enclose callText content).length - e.ending.length) =
            e.opening ++ callText ++ '(' :: content := by
        rw [enclose, List.length_append, Nat.add_sub_cancel, List.take_left]
      rw [hFront, ← List.drop_drop, List.drop_left]
      rfl
  · rintro ⟨paren, hSplits, rfl, rfl⟩
    exact hSplits.eq_enclose

/-- There is one way to take a command apart, even where a delimiter has parentheses of its own. -/
theorem enclose_inj {e : Embedding} {callText content other others : Text}
    (hFree : '(' ∉ callText) (hOther : '(' ∉ other)
    (h : e.enclose callText content = e.enclose other others) :
    callText = other ∧ content = others := by
  have hSplit : e.split? (e.enclose callText content) = some (callText, content) :=
    split?_eq_some_iff.mpr ⟨rfl, hFree⟩
  rw [h, split?_eq_some_iff.mpr ⟨rfl, hOther⟩] at hSplit
  cases hSplit
  exact ⟨rfl, rfl⟩

/-- How the three readers of a delimited command agree. -/
structure Agreement (e : Embedding) : Prop where
  split : ∀ command callText content, e.split? command = some (callText, content) ↔
    command = e.opening ++ callText ++ '(' :: content ++ ')' :: e.closing ∧ '(' ∉ callText
  offsets : ∀ command callText content, e.split? command = some (callText, content) ↔
    ∃ paren, SplitsAt e command paren ∧
      callText = (command.take paren).drop e.opening.length ∧
      content = (command.take (command.length - e.ending.length)).drop (paren + 1)
  unique : ∀ callText content other others, '(' ∉ callText → '(' ∉ other →
    e.enclose callText content = e.enclose other others → callText = other ∧ content = others
  refused : ∀ command, (¬ ∃ callText content,
      command = e.enclose callText content ∧ '(' ∉ callText) →
    ∀ {ω : Type} (r : Registry ω) (s : State ω),
      r.recognize e command s = .error (.notDelimited e.type command) s
  matched : ∀ command, command ∈ e.pattern.language ↔ ∃ callText content,
    e.split? command = some (callText, content) ∧ callText ∈ callPattern.language
  recognized : ∀ command ∈ e.pattern.language, ∃ callText content,
    e.split? command = some (callText, content) ∧
    ∀ {ω : Type} (r : Registry ω) (s : State ω),
      r.recognize e command s = r.recognizeCall e.type callText content s ∧
      ∀ fault, (r.recognize e command s).result = .error fault →
        r.BreaksWith e callText content s fault
  unrefused : ∀ command ∈ e.pattern.language, ∀ {ω : Type} (r : Registry ω) (s : State ω),
    (∀ callText content, ¬ r.BreaksWith e callText content s (.notDelimited e.type command)) →
      (r.recognize e command s).result ≠ .error (.notDelimited e.type command)
  whole : ∀ command, e.matchesWhole command = true ↔ command ∈ e.pattern.language
  found : ∀ t, ∀ m ∈ findAll e t, m.command ∈ e.pattern.language
  written : ∀ callText call, Call.parse callText = .ok call → callText ∈ callPattern.language ∧
    ∀ content, e.enclose callText content ∈ e.pattern.language ∧
      e.split? (e.enclose callText content) = some (callText, content)
  rejected : ∀ command ∈ e.pattern.language, ∀ callText content rejection,
    e.split? command = some (callText, content) → Call.parse callText = .error rejection →
      rejection.callText = callText ∧ rejection.reason.AboutList

theorem split?_of_mem_callPattern {e : Embedding} {callText : Text}
    (hCall : callText ∈ callPattern.language) (content : Text) :
    e.split? (e.enclose callText content) = some (callText, content) :=
  split?_eq_some_iff.mpr ⟨rfl, not_mem_of_mem_callPattern hCall⟩

/-- The pattern matches what the splitter takes apart into a call text of the pattern and any
content. -/
theorem mem_pattern_iff_split? {e : Embedding} {command : Text} :
    command ∈ e.pattern.language ↔ ∃ callText content,
      e.split? command = some (callText, content) ∧ callText ∈ callPattern.language := by
  rw [mem_pattern_iff]
  constructor
  · rintro ⟨callText, hCall, content, rfl⟩
    exact ⟨callText, content, split?_of_mem_callPattern hCall content, hCall⟩
  · rintro ⟨callText, content, hSplit, hCall⟩
    exact ⟨callText, hCall, content, (split?_eq_some_iff.mp hSplit).1⟩

/-- Of what the pattern matches the splitter refuses nothing: recognizing it goes on with the two
parts, and a fault can only be one of the package or the handler that the call leads to. -/
theorem recognition_of_mem_pattern {e : Embedding} {command : Text}
    (h : command ∈ e.pattern.language) :
    ∃ callText content, e.split? command = some (callText, content) ∧
      ∀ {ω : Type} (r : Registry ω) (s : State ω),
        r.recognize e command s = r.recognizeCall e.type callText content s ∧
        ∀ fault, (r.recognize e command s).result = .error fault →
          r.BreaksWith e callText content s fault := by
  obtain ⟨callText, content, hSplit, _⟩ := mem_pattern_iff_split?.mp h
  refine ⟨callText, content, hSplit, ?_⟩
  intro ω r s
  have hRecognition := Registry.recognition (r := r) hSplit s
  exact ⟨Registry.recognize_of_split hSplit r s, fun fault hFault => hRecognition.breaksWith hFault⟩

/-- What is found in a text is matched by the pattern as a whole. -/
theorem mem_pattern_of_mem_findAll {e : Embedding} {t : Text} {m : Match} (h : m ∈ findAll e t) :
    m.command ∈ e.pattern.language := by
  obtain ⟨rest, hMatch⟩ := matchAt?_of_mem_findAll h
  obtain ⟨_, callText, hCall, content, hCommand, _⟩ := matchAt?_eq_some_iff.mp hMatch
  exact mem_pattern_iff.mpr ⟨callText, hCall, content, hCommand⟩

/-- Whatever the delimiters are, the pattern, the splitter and the parser agree on every text: the
splitter takes apart exactly what is delimited, in one way; the pattern matches exactly what splits
into a text that it takes for a call, which every written call is. Recognizing what it matches never
fails at the splitter but goes on with the two parts, of which the parser rejects nothing but the
parameter list. -/
theorem readers_agree (e : Embedding) : Agreement e where
  split := fun command callText content => split?_eq_some_iff
  offsets := fun command callText content => split?_eq_some_iff_splitsAt
  unique := fun _ _ _ _ => enclose_inj
  refused := by
    intro command hNone ω r s
    have hSplit : e.split? command = none := by
      cases hSplit : e.split? command with
      | none => rfl
      | some parts => exact absurd ⟨parts.1, parts.2, split?_eq_some_iff.mp hSplit⟩ hNone
    rw [Registry.recognize, hSplit]
  matched := fun command => mem_pattern_iff_split?
  recognized := fun command hMem => recognition_of_mem_pattern hMem
  unrefused := by
    intro command hMem ω r s hOutside hRefused
    obtain ⟨callText, content, _, hRecognized⟩ := recognition_of_mem_pattern hMem
    exact hOutside callText content ((hRecognized r s).2 _ hRefused)
  whole := fun command => matchesWhole_eq_true_iff
  found := fun t m hMem => mem_pattern_of_mem_findAll hMem
  written := by
    intro callText call hParse
    obtain ⟨raw, hWrites, _⟩ := Call.parse_eq_ok_iff.mp hParse
    have hCall := mem_callPattern_of_writes hWrites
    refine ⟨hCall, ?_⟩
    intro content
    have hSplit := split?_of_mem_callPattern (e := e) hCall content
    exact ⟨mem_pattern_iff_split?.mpr ⟨callText, content, hSplit, hCall⟩, hSplit⟩
  rejected := by
    intro command hMem callText content rejection hSplit hParse
    obtain ⟨found, others, hFound, hCall⟩ := mem_pattern_iff_split?.mp hMem
    rw [hSplit] at hFound
    cases hFound
    exact Call.aboutList_of_mem_callPattern hCall hParse

end Embedding

end CommandMarkup
