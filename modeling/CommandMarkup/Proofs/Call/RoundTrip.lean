import CommandMarkup.Proofs.Call.Pattern
import Mathlib.Data.List.TakeWhile

/-! Writing calls and reading them back. The separators of a written call can be recovered exactly
if the call is well formed, so the texts of calls are a codec up to the case of command names.

Main statement: `toText_parse_codec`. -/
namespace CommandMarkup

open Computability

namespace Parameter

/-- Only well-formed parameters are derived by the grammar. -/
def WellFormed : Parameter → Prop
  | bare value => value ∈ Call.Pattern.value
  | assignment name value =>
    name ∈ Call.Pattern.name ∧ value ∈ (Call.Pattern.oneOf Call.Pattern.IsValueChar)∗

/-- There is one way to write a parameter that has a right name and value, and none otherwise. -/
theorem writes_iff {p : Parameter} {t : Text} : p.Writes t ↔ p.WellFormed ∧ t = p.toText := by
  cases p with
  | bare value =>
      simp only [WellFormed, Call.Pattern.mem_value_iff, toText]
      constructor
      · rintro (hValue | _)
        exact ⟨hValue, rfl⟩
      · rintro ⟨hValue, rfl⟩
        exact .bare hValue
  | assignment name value =>
      simp only [WellFormed, Call.Pattern.mem_name_iff, Call.Pattern.mem_kstar_valueChar, toText]
      constructor
      · rintro (_ | ⟨hName, hValue⟩)
        exact ⟨⟨hName, hValue⟩, rfl⟩
      · rintro ⟨⟨hName, hValue⟩, rfl⟩
        exact .assignment hName hValue

/-- There is one way to write a list of parameters: each as it is written by itself, with ampersands
between them. -/
theorem writesList_iff {ps : List Parameter} {t : Text} :
    WritesList ps t ↔
      ps ≠ [] ∧ (∀ p ∈ ps, p.WellFormed) ∧ t = Text.join '&' (ps.map toText) := by
  constructor
  · intro h
    induction h with
    | one hHead =>
        obtain ⟨hForm, rfl⟩ := writes_iff.mp hHead
        exact ⟨List.cons_ne_nil _ _, by simpa using hForm, rfl⟩
    | more hHead _ ih =>
        obtain ⟨hForm, rfl⟩ := writes_iff.mp hHead
        obtain ⟨hNonempty, hForms, rfl⟩ := ih
        refine ⟨List.cons_ne_nil _ _, List.forall_mem_cons.mpr ⟨hForm, hForms⟩, ?_⟩
        rw [List.map_cons, Text.join_cons]
        simpa using hNonempty
  · rintro ⟨hNonempty, hForms, rfl⟩
    induction ps with
    | nil => exact absurd rfl hNonempty
    | cons p ps ih =>
        obtain ⟨hForm, hForms⟩ := List.forall_mem_cons.mp hForms
        have hHead : p.Writes p.toText := writes_iff.mpr ⟨hForm, rfl⟩
        cases ps with
        | nil => exact .one hHead
        | cons q qs => exact .more hHead (ih (List.cons_ne_nil _ _) hForms)

end Parameter

namespace Call

namespace Pattern

/-- The letters `a` to `z`. -/
def IsSmallLetter (c : Char) : Prop := 'a' ≤ c ∧ c ≤ 'z'

/-- The characters of names without the capital letters. -/
def IsSmallNameChar (c : Char) : Prop := IsSmallLetter c ∨ ('0' ≤ c ∧ c ≤ '9') ∨ c = '_'

/-- The names without capital letters. -/
def smallName : Language Char := oneOf IsSmallLetter * (oneOf IsSmallNameChar)∗

theorem isSmallLetter_toLower {c : Char} (h : isNameStart c = true) : IsSmallLetter c.toLower := by
  have hAscii := isAscii_of_isNameChar (isNameStart_isNameChar h)
  revert h
  exact Text.forall_ascii (p := fun c => isNameStart c = true → IsSmallLetter c.toLower)
    (by unfold IsSmallLetter; decide) hAscii

theorem isSmallNameChar_toLower {c : Char} (h : isNameChar c = true) :
    IsSmallNameChar c.toLower := by
  have hAscii := isAscii_of_isNameChar h
  revert h
  exact Text.forall_ascii (p := fun c => isNameChar c = true → IsSmallNameChar c.toLower)
    (by unfold IsSmallNameChar IsSmallLetter; decide) hAscii

theorem isNameChar_of_isSmallNameChar {c : Char} (h : IsSmallNameChar c) :
    isNameChar c = true ∧ c.toLower = c := by
  have hChar : isNameChar c = true := isNameChar_eq_true_iff.mpr <| by
    rcases h with hLetter | hOther
    · exact Or.inl (Or.inl hLetter)
    · exact Or.inr hOther
  have hAscii := isAscii_of_isNameChar hChar
  refine ⟨hChar, ?_⟩
  revert h
  exact Text.forall_ascii (p := fun c => IsSmallNameChar c → c.toLower = c)
    (by unfold IsSmallNameChar IsSmallLetter; decide) hAscii

theorem map_toLower_mem_smallName {n : Text} (h : isName n = true) :
    n.map Char.toLower ∈ smallName := by
  cases n with
  | nil => exact absurd h (by decide)
  | cons c rest =>
      simp only [isName, Bool.and_eq_true, List.all_eq_true] at h
      refine Language.mem_mul.mpr ⟨[c.toLower], ⟨_, isSmallLetter_toLower h.1, rfl⟩,
        rest.map Char.toLower, mem_kstar_oneOf.mpr ?_, rfl⟩
      intro d hd
      obtain ⟨e, he, rfl⟩ := List.mem_map.mp hd
      exact isSmallNameChar_toLower (h.2 e he)

theorem isName_of_mem_smallName {n : Text} (h : n ∈ smallName) :
    isName n = true ∧ n.map Char.toLower = n := by
  obtain ⟨_, ⟨c, hc, rfl⟩, rest, hRest, rfl⟩ := Language.mem_mul.mp h
  have hFirst := isNameChar_of_isSmallNameChar (Or.inl hc)
  have hOthers : ∀ d ∈ rest, isNameChar d = true ∧ d.toLower = d := fun d hd =>
    isNameChar_of_isSmallNameChar (mem_kstar_oneOf.mp hRest d hd)
  have hStart : isNameStart c = true := isNameStart_eq_true_iff.mpr (Or.inl hc)
  constructor
  · simpa [isName, hStart] using fun d hd => (hOthers d hd).1
  · have hMap : rest.map Char.toLower = rest :=
      (List.map_congr_left fun d hd => (hOthers d hd).2).trans (List.map_id' rest)
    rw [List.singleton_append, List.map_cons, hFirst.2, hMap]

end Pattern

/-- Only well-formed calls are what some text is read as. -/
structure WellFormed (call : Call) : Prop where
  name : call.name ∈ Pattern.smallName
  parameters : ∀ p ∈ call.parameters, p.WellFormed

/-- There is one way to write a call with a right name and right parameters. -/
theorem writes_iff {c : Call} {t : Text} :
    c.Writes t ↔ isName c.name = true ∧ (∀ p ∈ c.parameters, p.WellFormed) ∧ t = c.toText := by
  obtain ⟨n, ps⟩ := c
  constructor
  · intro h
    cases h with
    | plain hName => exact ⟨hName, by simp, rfl⟩
    | withParameters hName hList =>
        obtain ⟨_, hForms, rfl⟩ := Parameter.writesList_iff.mp hList
        exact ⟨hName, hForms, by simp [toText]⟩
  · rintro ⟨hName, hForms, rfl⟩
    cases ps with
    | nil => exact .plain hName
    | cons p ps =>
        exact .withParameters hName
          (Parameter.writesList_iff.mpr ⟨List.cons_ne_nil _ _, hForms, rfl⟩)

/-- The text with the letters of its command name in lower case and all else as it is. -/
def lowerCommand (t : Text) : Text :=
  (t.takeWhile isNameChar).map Char.toLower ++ t.dropWhile isNameChar

/-- Lowering the text of a call up to its question mark is lowering its name. Values keep their
letters. -/
theorem lowerCommand_toText {c : Call} (hName : isName c.name = true) :
    lowerCommand c.toText = c.lowered.toText := by
  have hAll : ∀ d ∈ c.name, isNameChar d = true := isNameChar_of_isName hName
  have hMark : isNameChar '?' = false := by decide
  obtain ⟨n, ps⟩ := c
  cases ps with
  | nil =>
      have hTake : n.takeWhile isNameChar = n := List.takeWhile_eq_self_iff.mpr hAll
      have hDrop : n.dropWhile isNameChar = [] := List.dropWhile_eq_nil_iff.mpr hAll
      simp only [lowerCommand, toText, lowered, hTake, hDrop, lower_name hName, List.append_nil]
  | cons p ps =>
      simp only [lowerCommand, toText, lowered, List.takeWhile_append_of_pos hAll,
        List.dropWhile_append_of_pos hAll, lower_name hName, List.takeWhile_cons, hMark,
        List.dropWhile_cons, Bool.false_eq_true, if_false, List.append_nil]

/-- What the parser returns is well formed and prints as the text it came from, but for the letters
of the name. -/
theorem wellFormed_of_parse {t : Text} {c : Call} (h : parse t = .ok c) :
    c.WellFormed ∧ c.toText = lowerCommand t := by
  obtain ⟨raw, hWrites, rfl⟩ := parse_eq_ok_iff.mp h
  obtain ⟨hName, hForms, rfl⟩ := writes_iff.mp hWrites
  refine ⟨⟨?_, hForms⟩, (lowerCommand_toText hName).symm⟩
  simp only [lowered, lower_name hName]
  exact Pattern.map_toLower_mem_smallName hName

/-- What is well formed is read back as it was printed. -/
theorem parse_toText_of_wellFormed {c : Call} (h : c.WellFormed) : parse c.toText = .ok c := by
  obtain ⟨hName, hLower⟩ := Pattern.isName_of_mem_smallName h.name
  refine parse_eq_ok_iff.mpr ⟨c, writes_iff.mpr ⟨hName, h.parameters, rfl⟩, ?_⟩
  simp only [lowered, lower_name hName, hLower]

/-- A name whose assigned value is left out may stand alone just as well, since every name is a
value. -/
theorem wellFormed_bare_of_assignment {ps qs : List Parameter} {x : Text}
    (h : ∀ p ∈ ps ++ .assignment x [] :: qs, p.WellFormed) :
    ∀ p ∈ ps ++ .bare x :: qs, p.WellFormed := by
  have hName : x ∈ Pattern.name := (h (.assignment x []) (by simp)).1
  have hValue : (Parameter.bare x).WellFormed := Pattern.mem_value_of_mem_name hName
  intro p hp
  rcases List.mem_append.mp hp with hp | hp
  · exact h p (List.mem_append_left _ hp)
  · rcases List.mem_cons.mp hp with rfl | hp
    · exact hValue
    · exact h p (List.mem_append_right _ (List.mem_cons_of_mem _ hp))

/-- A value left out and no assignment at all look the same in the index. -/
theorem index_assignment_nil (n : Text) (ps qs : List Parameter) (x : Text) :
    (⟨n, ps ++ .bare x :: qs⟩ : Call).index = (⟨n, ps ++ .assignment x [] :: qs⟩ : Call).index := by
  simp only [index, Parameter.index_append, List.foldl_cons, Parameter.key, Parameter.indexValue]

/-- Writing and reading calls. What is read from a text is written as the text with its command
name in lower case, and is read back. A call is read back from what it is written as if and only
if it is well formed. Two texts are read as one call if and only if they differ at most in the case
of their command names; in particular a value that is left out after a name stays different from
the name alone, although the index does not show it. -/
theorem toText_parse_codec :
    (∀ t c, parse t = .ok c → c.toText = lowerCommand t ∧ parse c.toText = .ok c) ∧
    (∀ c : Call, parse c.toText = .ok c ↔ c.WellFormed) ∧
    (∀ t u b c, parse t = .ok b → parse u = .ok c → (b = c ↔ lowerCommand t = lowerCommand u)) ∧
    (∀ n ps x qs, (⟨n, ps ++ .assignment x [] :: qs⟩ : Call).WellFormed →
      let bare : Call := ⟨n, ps ++ .bare x :: qs⟩
      let assigned : Call := ⟨n, ps ++ .assignment x [] :: qs⟩
      parse bare.toText = .ok bare ∧ parse assigned.toText = .ok assigned ∧ bare ≠ assigned ∧
        bare.index = assigned.index) := by
  refine ⟨?_, ?_, ?_, ?_⟩
  · intro t c h
    obtain ⟨hForm, hText⟩ := wellFormed_of_parse h
    exact ⟨hText, parse_toText_of_wellFormed hForm⟩
  · intro c
    exact ⟨fun h => (wellFormed_of_parse h).1, parse_toText_of_wellFormed⟩
  · intro t u b c hb hc
    obtain ⟨hFormB, hTextB⟩ := wellFormed_of_parse hb
    obtain ⟨hFormC, hTextC⟩ := wellFormed_of_parse hc
    rw [← hTextB, ← hTextC]
    constructor
    · rintro rfl
      rfl
    · intro h
      have hRead := parse_toText_of_wellFormed hFormB
      rw [h, parse_toText_of_wellFormed hFormC] at hRead
      exact (Except.ok.inj hRead).symm
  · intro n ps x qs hForm bare assigned
    have hBare : bare.WellFormed := ⟨hForm.name, wellFormed_bare_of_assignment hForm.parameters⟩
    refine ⟨parse_toText_of_wellFormed hBare, parse_toText_of_wellFormed hForm, ?_,
      index_assignment_nil n ps qs x⟩
    intro h
    simp [bare, assigned] at h

/-- Two spellings of one call, and the call that only the index confuses with it. -/
theorem toText_parse_codec_spellings :
    let c : Call := ⟨['d', 'o'], [.assignment ['x'] []]⟩
    c.WellFormed ∧ parse ['D', 'o', '?', 'x', '='] = .ok c ∧
      c.toText = lowerCommand ['D', 'o', '?', 'x', '='] ∧
      lowerCommand ['D', 'o', '?', 'x', '='] = lowerCommand ['d', 'O', '?', 'x', '='] ∧
      (⟨['d', 'o'], [.bare ['x']]⟩ : Call) ≠ c ∧
      (⟨['d', 'o'], [.bare ['x']]⟩ : Call).index = c.index := by
  intro c
  obtain ⟨hRead, hForm, hEq, hMissing⟩ := toText_parse_codec
  have hFirst : parse ['D', 'o', '?', 'x', '='] = .ok c := rfl
  have hSecond : parse ['d', 'O', '?', 'x', '='] = .ok c := rfl
  have hWell : c.WellFormed := (hForm c).mp (hRead _ c hFirst).2
  obtain ⟨_, _, hNe, hIndex⟩ := hMissing ['d', 'o'] [] ['x'] [] hWell
  exact ⟨hWell, hFirst, (hRead _ c hFirst).1, (hEq _ _ c c hFirst hSecond).mp rfl, hNe, hIndex⟩

end Call

end CommandMarkup
