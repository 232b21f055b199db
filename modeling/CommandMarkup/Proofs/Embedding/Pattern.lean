import CommandMarkup.Embedding.Lexer
import CommandMarkup.Proofs.Text.Occurrence
import CommandMarkup.Proofs.Text.Regex

/-! The pattern of an embedded command, with its character classes spelled out, and the scanners of
the library beside it. The pattern of a call is loose: it lets any run of list characters stand
after the question mark, so that it matches more than the grammar of calls derives. -/
namespace CommandMarkup.Embedding

open Text (Regex OccursAt)
open Text.Regex (InClass)

/-- The letters of ASCII. -/
def letters : List (Char × Char) := [('a', 'z'), ('A', 'Z')]

/-- What a name goes on with. -/
def nameChars : List (Char × Char) := letters ++ [('0', '9'), ('_', '_')]

/-- What values hold, with the two separators of a parameter list. -/
def listChars : List (Char × Char) :=
  nameChars ++ [('.', '.'), ('-', '-'), ('=', '='), ('&', '&')]

/-- A letter and any run of name characters. -/
def namePattern : Regex := .sequence (.one letters) (.run nameChars)

/-- A question mark and any run of list characters, or nothing. -/
def listPattern : Regex := .optional (.sequence (.literal ['?']) (.run listChars))

/-- A name with a list after it or none. -/
def callPattern : Regex := .sequence namePattern listPattern

/-- The pattern of a command: between the delimiters a call and, in parentheses, any content. -/
def pattern (e : Embedding) : Regex :=
  .sequence (.literal e.opening) <| .sequence callPattern <| .sequence (.literal ['(']) <|
    .sequence .gap (.literal e.ending)

theorem inClass_letters_iff {c : Char} : InClass letters c ↔ Call.isNameStart c = true := by
  simp only [InClass, letters, Call.Pattern.isNameStart_eq_true_iff, Call.Pattern.IsLetter,
    List.mem_cons, List.not_mem_nil, or_false, exists_eq_or_imp, exists_eq_left]

theorem between_self_iff {c d : Char} : (d ≤ c ∧ c ≤ d) ↔ c = d := by
  constructor
  · intro h
    exact Char.le_antisymm h.2 h.1
  · rintro rfl
    exact ⟨Char.le_refl c, Char.le_refl c⟩

theorem inClass_append_iff {first second : List (Char × Char)} {c : Char} :
    InClass (first ++ second) c ↔ InClass first c ∨ InClass second c := by
  simp only [InClass, List.mem_append, or_and_right, exists_or]

theorem inClass_nameChars_iff {c : Char} : InClass nameChars c ↔ Call.isNameChar c = true := by
  rw [nameChars, inClass_append_iff, inClass_letters_iff, Call.Pattern.isNameStart_eq_true_iff,
    Call.Pattern.isNameChar_eq_true_iff]
  simp only [InClass, Call.Pattern.IsNameChar, List.mem_cons, List.not_mem_nil, or_false,
    exists_eq_or_imp, exists_eq_left, between_self_iff]

/-- The class of list characters has those of values and the two marks that set parameters apart. -/
theorem inClass_listChars_iff {c : Char} : InClass listChars c ↔ isListChar c = true := by
  rw [listChars, inClass_append_iff, inClass_nameChars_iff]
  simp only [InClass, isListChar, Call.isValueChar, List.mem_cons, List.not_mem_nil, or_false,
    exists_eq_or_imp, exists_eq_left, between_self_iff, Bool.or_eq_true, beq_iff_eq, or_assoc]

/-- What the pattern of a call matches: a name alone, or one with a list after it. -/
theorem mem_callPattern_iff {t : Text} :
    t ∈ callPattern.language ↔ ∃ name, Call.isName name = true ∧
      (t = name ∨ ∃ list, (∀ c ∈ list, isListChar c = true) ∧ t = name ++ '?' :: list) := by
  have hName : ∀ name, name ∈ namePattern.language ↔ Call.isName name = true := by
    intro name
    rw [← Call.Pattern.mem_name_iff]
    simp only [namePattern, Regex.language, Call.Pattern.name, Call.Pattern.oneOf,
      inClass_letters_iff,
      inClass_nameChars_iff, Call.Pattern.isNameStart_eq_true_iff,
      Call.Pattern.isNameChar_eq_true_iff]
  have hList : ∀ list, list ∈ (Regex.run listChars).language ↔
      ∀ c ∈ list, isListChar c = true := by
    intro list
    simp only [Regex.language, Call.Pattern.mem_kstar_oneOf, inClass_listChars_iff]
  rw [callPattern, Regex.language, Language.mem_mul]
  constructor
  · rintro ⟨name, hFront, _, hBack, rfl⟩
    refine ⟨name, (hName name).mp hFront, ?_⟩
    rcases hBack with ⟨_, hMark, list, hChars, rfl⟩ | hNone
    · obtain rfl := Call.Pattern.mem_singleton.mp hMark
      exact .inr ⟨list, (hList list).mp hChars, rfl⟩
    · obtain rfl := (Language.mem_one _).mp hNone
      exact .inl (List.append_nil name)
  · rintro ⟨name, hFront, rfl | ⟨list, hChars, rfl⟩⟩
    · exact ⟨t, (hName t).mpr hFront, [], .inr rfl, List.append_nil t⟩
    · exact ⟨name, (hName name).mpr hFront, '?' :: list,
        .inl ⟨['?'], rfl, list, (hList list).mpr hChars, rfl⟩, rfl⟩

/-- No call text has a parenthesis in it. -/
theorem not_mem_of_mem_callPattern {t : Text} (h : t ∈ callPattern.language) : '(' ∉ t := by
  obtain ⟨name, hName, hText⟩ := mem_callPattern_iff.mp h
  have hFree : '(' ∉ name := fun hMem =>
    absurd (Call.isNameChar_of_isName hName _ hMem) (by decide)
  rcases hText with rfl | ⟨list, hList, rfl⟩
  · exact hFree
  · intro hMem
    rcases List.mem_append.mp hMem with hMem | hMem
    · exact hFree hMem
    · rcases List.mem_cons.mp hMem with hMark | hMem
      · exact absurd hMark (by decide)
      · exact absurd (hList _ hMem) (by decide)

theorem isListChar_of_mem_writes {p : Parameter} {t : Text} (h : p.Writes t) :
    ∀ c ∈ t, isListChar c = true := by
  have hValueChar : ∀ c, Call.isValueChar c = true → isListChar c = true := by
    intro c hc
    simp [isListChar, hc]
  intro c hMem
  cases h with
  | bare hValue =>
      simp only [Call.isValue, Bool.and_eq_true, List.all_eq_true] at hValue
      exact hValueChar c (hValue.2 c hMem)
  | assignment hName hValue =>
      rcases List.mem_append.mp hMem with hMem | hMem
      · exact hValueChar c (Call.isNameChar_isValueChar (Call.isNameChar_of_isName hName c hMem))
      · rcases List.mem_cons.mp hMem with rfl | hMem
        · decide
        · exact hValueChar c (hValue c hMem)

/-- A parameter list is written in list characters, so the pattern does not stop short of its
end. -/
theorem isListChar_of_mem_writesList {ps : List Parameter} {t : Text}
    (h : Parameter.WritesList ps t) : ∀ c ∈ t, isListChar c = true := by
  induction h with
  | one hHead => exact isListChar_of_mem_writes hHead
  | more hHead _ ih =>
      intro c hMem
      rcases List.mem_append.mp hMem with hMem | hMem
      · exact isListChar_of_mem_writes hHead c hMem
      · rcases List.mem_cons.mp hMem with rfl | hMem
        · decide
        · exact ih c hMem

/-- Every written call is matched. -/
theorem mem_callPattern_of_writes {t : Text} {call : Call} (h : call.Writes t) :
    t ∈ callPattern.language := by
  cases h with
  | plain hName => exact mem_callPattern_iff.mpr ⟨t, hName, .inl rfl⟩
  | @withParameters name list ps hName hList =>
      refine mem_callPattern_iff.mpr ⟨name, hName, .inr ⟨list, ?_, rfl⟩⟩
      exact isListChar_of_mem_writesList hList

/-- A run of characters ends where the next character is none of its own. -/
theorem takeWhile_run {p : Char → Bool} {front : Text} {d : Char} (hFront : ∀ c ∈ front, p c = true)
    (hStop : p d = false) (rest : Text) :
    (front ++ d :: rest).takeWhile p = front ∧ (front ++ d :: rest).dropWhile p = d :: rest := by
  have hNot : ¬ p d = true := by simp [hStop]
  rw [List.takeWhile_append_of_pos hFront, List.takeWhile_cons_of_neg hNot, List.append_nil,
    List.dropWhile_append_of_pos hFront, List.dropWhile_cons_of_neg hNot]
  exact ⟨rfl, rfl⟩

/-- The scanner of calls takes what the pattern matches up to a parenthesis. -/
theorem takeCall?_append {callText : Text} (h : callText ∈ callPattern.language) (body : Text) :
    takeCall? (callText ++ '(' :: body) = some (callText, '(' :: body) := by
  obtain ⟨name, hName, hText⟩ := mem_callPattern_iff.mp h
  cases name with
  | nil => exact absurd hName (by decide)
  | cons d name =>
      simp only [Call.isName, Bool.and_eq_true, List.all_eq_true] at hName
      obtain ⟨hStart, hName⟩ := hName
      rcases hText with rfl | ⟨list, hList, rfl⟩
      · obtain ⟨hTake, hDrop⟩ :=
          takeWhile_run hName (show Call.isNameChar '(' = false by decide) body
        rw [List.cons_append, takeCall?, if_pos hStart, hTake, hDrop]
        rfl
      · obtain ⟨hTake, hDrop⟩ := takeWhile_run hName (show Call.isNameChar '?' = false by decide)
          (list ++ '(' :: body)
        obtain ⟨hTakeList, hDropList⟩ :=
          takeWhile_run hList (show isListChar '(' = false by decide) body
        rw [List.append_assoc, List.cons_append, List.cons_append, takeCall?, if_pos hStart, hTake,
          hDrop]
        simp only [hTakeList, hDropList, List.cons_append]

/-- The call that the lexer takes is one that the pattern matches. It takes the longest one there
is. -/
theorem mem_callPattern_of_takeCall? {t callText rest : Text}
    (h : takeCall? t = some (callText, rest)) : callText ∈ callPattern.language := by
  cases t with
  | nil => cases h
  | cons c t =>
      rw [takeCall?] at h
      split at h
      · next hStart =>
        have hName : Call.isName (c :: t.takeWhile Call.isNameChar) = true := by
          rw [Call.isName, hStart, Bool.true_and]
          exact List.all_takeWhile
        split at h
        · next list hList =>
          cases h
          exact mem_callPattern_iff.mpr
            ⟨_, hName, .inr ⟨_, List.all_eq_true.mp List.all_takeWhile, rfl⟩⟩
        · cases h
          exact mem_callPattern_iff.mpr ⟨_, hName, .inl rfl⟩
      · cases h

/-- The head of a command is taken if and only if the text starts with it. -/
theorem takeHead?_eq_some_iff {e : Embedding} {t callText body : Text} :
    e.takeHead? t = some (callText, body) ↔
      callText ∈ callPattern.language ∧ t = e.opening ++ callText ++ '(' :: body := by
  constructor
  · intro h
    refine ⟨?_, takeHead?_eq_some h⟩
    rw [takeHead?] at h
    split at h
    · cases h
    · split at h
      · next hCall =>
        cases h
        exact mem_callPattern_of_takeCall? hCall
      · cases h
  · rintro ⟨hCall, rfl⟩
    have hStart : Text.dropStart? e.opening (e.opening ++ callText ++ '(' :: body) =
        some (callText ++ '(' :: body) :=
      Text.dropStart?_eq_some_iff.mpr (List.append_assoc _ _ _)
    rw [takeHead?, hStart]
    dsimp only
    rw [takeCall?_append hCall]
    rfl

section Retreat

variable {next : Text → List Text} (hNext : ∀ c u, c ≠ '(' → next (c :: u) = [])

include hNext

/-- A list is not worth giving up where the matcher can only go on with a parenthesis. -/
theorem flatMap_rests_listPattern (t : Text) :
    (listPattern.rests t).flatMap next =
      match t with
      | '?' :: list => next (list.dropWhile isListChar)
      | t => next t := by
  have hList : ∀ c u, InClass listChars c → next (c :: u) = [] := by
    intro c u hClass
    refine hNext c u ?_
    rintro rfl
    exact absurd (inClass_listChars_iff.mp hClass) (by decide)
  rw [listPattern, Regex.rests, Regex.rests, Regex.rests, List.flatMap_append,
    List.flatMap_singleton]
  split
  · next list =>
    have hStart : Text.dropStart? ['?'] ('?' :: list) = some list := rfl
    rw [hStart, Option.toList_some, List.flatMap_singleton, Regex.rests,
      Regex.flatMap_runRests hList, hNext _ _ (by decide), List.append_nil]
    simp only [inClass_listChars_iff, Bool.decide_eq_true]
  · next hOther =>
    have hStart : Text.dropStart? ['?'] t = none := by
      cases hDrop : Text.dropStart? ['?'] t with
      | none => rfl
      | some list => exact absurd (Text.dropStart?_eq_some_iff.mp hDrop) (hOther list)
    rw [hStart, Option.toList_none, List.flatMap_nil, List.flatMap_nil, List.nil_append]

/-- Nor is any other part of a call: the matcher goes on after the call that is scanned. -/
theorem flatMap_rests_callPattern (t : Text) :
    (callPattern.rests t).flatMap next =
      match takeCall? t with
      | some (_, rest) => next rest
      | none => [] := by
  have hName : ∀ c u, InClass nameChars c → (listPattern.rests (c :: u)).flatMap next = [] := by
    intro c u hClass
    have hChar := inClass_nameChars_iff.mp hClass
    rw [flatMap_rests_listPattern hNext]
    split
    · next list hMark =>
      obtain ⟨rfl, _⟩ := List.cons.inj hMark
      exact absurd hChar (by decide)
    · refine hNext c u ?_
      rintro rfl
      exact absurd hChar (by decide)
  cases t with
  | nil => rfl
  | cons c t =>
      by_cases hStart : Call.isNameStart c = true
      · rw [callPattern, Regex.rests, List.flatMap_assoc, namePattern, Regex.rests, Regex.rests,
          if_pos (inClass_letters_iff.mpr hStart), List.flatMap_singleton, Regex.rests,
          Regex.flatMap_runRests hName, flatMap_rests_listPattern hNext]
        simp only [inClass_nameChars_iff, Bool.decide_eq_true]
        rw [takeCall?, if_pos hStart]
        generalize t.dropWhile (fun c => Call.isNameChar c) = u
        split
        · rfl
        · next hOther =>
          split
          · next hFound =>
            split at hFound
            · exact absurd rfl (hOther _)
            · cases hFound
              rfl
          · next hNone => split at hNone <;> cases hNone
      · rw [callPattern, Regex.rests, namePattern, Regex.rests, Regex.rests,
          if_neg (fun hClass => hStart (inClass_letters_iff.mp hClass)), takeCall?, if_neg hStart]
        rfl

end Retreat

/-- The first match that a backtracking matcher finds here is the command that is found here. -/
theorem head?_rests_pattern (e : Embedding) (t : Text) :
    (e.pattern.rests t).head? = (e.matchAt? t).map Prod.snd := by
  have hOther : ∀ u : Text, (∀ body, u ≠ '(' :: body) →
      (Regex.sequence (.literal ['(']) (.sequence .gap (.literal e.ending))).rests u = [] := by
    intro u hu
    rw [Regex.rests, Regex.rests, List.flatMap_eq_nil_iff]
    intro body hBody
    exact absurd (Text.dropStart?_eq_some_iff.mp (Option.mem_toList.mp hBody)) (hu body)
  rw [pattern, Regex.rests, Regex.rests, matchAt?, takeHead?]
  cases hStart : Text.dropStart? e.opening t with
  | none => rfl
  | some rest =>
      rw [Option.toList_some, List.flatMap_singleton, Regex.rests, flatMap_rests_callPattern
        fun c u hc => hOther (c :: u) fun body hEq => hc (List.cons.inj hEq).1]
      cases hCall : takeCall? rest with
      | none => simp only [hCall, List.head?_nil, Option.map_none]
      | some found =>
          obtain ⟨callText, after⟩ := found
          simp only [hCall]
          cases after with
          | nil =>
              rw [hOther [] fun body hEq => List.cons_ne_nil _ _ hEq.symm]
              rfl
          | cons c body =>
              by_cases hParen : c = '('
              · subst hParen
                have hBody : Text.dropStart? ['('] ('(' :: body) = some body := rfl
                rw [Regex.rests, Regex.rests, hBody, Option.toList_some, List.flatMap_singleton,
                  Regex.head?_rests_gap]
                simp only [Option.map_map, Function.comp_def]
              · rw [hOther (c :: body) fun body hEq => hParen (List.cons.inj hEq).1]
                simp [hParen]

/-- What the pattern matches as a whole: a call that it takes for one, enclosed with any content. -/
theorem mem_pattern_iff {e : Embedding} {command : Text} :
    command ∈ e.pattern.language ↔
      ∃ callText ∈ callPattern.language, ∃ content, command = e.enclose callText content := by
  simp only [pattern, Regex.language, Language.mem_mul, Call.Pattern.mem_singleton]
  constructor
  · rintro ⟨_, rfl, _, ⟨callText, hCall, _, ⟨_, rfl, _, ⟨content, _, _, rfl, rfl⟩, rfl⟩, rfl⟩, rfl⟩
    exact ⟨callText, hCall, content, by simp [enclose]⟩
  · rintro ⟨callText, hCall, content, rfl⟩
    refine ⟨_, rfl, _,
      ⟨callText, hCall, _, ⟨_, rfl, _, ⟨content, trivial, _, rfl, rfl⟩, rfl⟩, rfl⟩, ?_⟩
    simp [enclose]

theorem enclose_eq_head (e : Embedding) (callText content : Text) :
    e.enclose callText content = e.opening ++ callText ++ '(' :: (content ++ e.ending) := by
  simp [enclose]

/-- The scanner of whole commands accepts what the pattern matches as a whole. -/
theorem matchesWhole_eq_true_iff {e : Embedding} {command : Text} :
    e.matchesWhole command = true ↔ command ∈ e.pattern.language := by
  rw [mem_pattern_iff, matchesWhole]
  constructor
  · intro h
    split at h
    · cases h
    · next callText body hHead =>
      obtain ⟨hCall, rfl⟩ := takeHead?_eq_some_iff.mp hHead
      obtain ⟨content, hContent⟩ := Option.isSome_iff_exists.mp h
      obtain rfl := Text.dropEnd?_eq_some_iff.mp hContent
      exact ⟨callText, hCall, content, (enclose_eq_head e callText content).symm⟩
  · rintro ⟨callText, hCall, content, rfl⟩
    have hHead : e.takeHead? (e.enclose callText content) = some (callText, content ++ e.ending) :=
      takeHead?_eq_some_iff.mpr ⟨hCall, enclose_eq_head e callText content⟩
    rw [hHead]
    dsimp only
    rw [Text.dropEnd?_eq_some_iff.mpr rfl]
    rfl

/-- A command is found at the start of a text if it stands there and none of its endings comes
earlier than the one that it ends with. -/
theorem matchAt?_eq_some_iff {e : Embedding} {t command rest : Text} :
    e.matchAt? t = some (command, rest) ↔ t = command ++ rest ∧
      ∃ callText ∈ callPattern.language, ∃ content, command = e.enclose callText content ∧
        ∀ i < content.length, ¬ OccursAt e.ending (content ++ e.ending ++ rest) i := by
  constructor
  · intro h
    rw [matchAt?] at h
    split at h
    · cases h
    · next callText body hHead =>
      obtain ⟨hCall, rfl⟩ := takeHead?_eq_some_iff.mp hHead
      obtain ⟨⟨content, after⟩, hBreak, hFound⟩ := Option.map_eq_some_iff.mp h
      cases hFound
      obtain ⟨rfl, hFirst⟩ := Text.breakOn?_eq_some_iff.mp hBreak
      exact ⟨by simp [enclose], callText, hCall, content, rfl, hFirst⟩
  · rintro ⟨rfl, callText, hCall, content, rfl, hFirst⟩
    have hHead : e.takeHead? (e.enclose callText content ++ rest) =
        some (callText, content ++ e.ending ++ rest) :=
      takeHead?_eq_some_iff.mpr ⟨hCall, by simp [enclose]⟩
    rw [matchAt?, hHead]
    dsimp only
    rw [Text.breakOn?_eq_some_iff.mpr ⟨rfl, hFirst⟩]
    rfl

end CommandMarkup.Embedding
