import CommandMarkup.Call.Parser
import Mathlib.Computability.Language

/-! The regular languages of the call grammar, with every character class spelled out. They say
which texts the pattern of a call matches, whatever order a matcher tries its alternatives in: a
value is also the start of an assignment, so several attempts at one parameter may be needed.
The readers of the library are compared with these languages and not the other way round. -/
namespace CommandMarkup.Call.Pattern

open Computability

/-- The texts of one character that has the property. -/
def oneOf (p : Char → Prop) : Language Char := {t | ∃ c, p c ∧ t = [c]}

/-- The letters `a` to `z` and `A` to `Z`. -/
def IsLetter (c : Char) : Prop := ('a' ≤ c ∧ c ≤ 'z') ∨ ('A' ≤ c ∧ c ≤ 'Z')

/-- The letters, the digits `0` to `9` and the underscore. -/
def IsNameChar (c : Char) : Prop := IsLetter c ∨ ('0' ≤ c ∧ c ≤ '9') ∨ c = '_'

/-- What names hold, the dot and the hyphen. -/
def IsValueChar (c : Char) : Prop := IsNameChar c ∨ c = '.' ∨ c = '-'

/-- A letter and any number of name characters. -/
def name : Language Char := oneOf IsLetter * (oneOf IsNameChar)∗

/-- One value character or more. -/
def value : Language Char := oneOf IsValueChar * (oneOf IsValueChar)∗

/-- A name, an equals sign and any number of value characters. -/
def assignment : Language Char := name * {['=']} * (oneOf IsValueChar)∗

/-- A value or an assignment. -/
def parameter : Language Char := value + assignment

/-- A parameter, and any number of further ones with an ampersand before each. -/
def parameters : Language Char := parameter * ({['&']} * parameter)∗

/-- A name, and a question mark with parameters after it or nothing. -/
def call : Language Char := name * (1 + {['?']} * parameters)

theorem mem_oneOf {p : Char → Prop} {t : Text} : t ∈ oneOf p ↔ ∃ c, p c ∧ t = [c] := Iff.rfl

theorem mem_singleton {t u : Text} : t ∈ ({u} : Language Char) ↔ t = u := Iff.rfl

/-- A text of any length over a class of characters has nothing but characters of the class. -/
theorem mem_kstar_oneOf {p : Char → Prop} {t : Text} : t ∈ (oneOf p)∗ ↔ ∀ c ∈ t, p c := by
  rw [Language.mem_kstar]
  constructor
  · rintro ⟨pieces, rfl, hPieces⟩ c hc
    obtain ⟨piece, hPiece, hc⟩ := List.mem_flatten.mp hc
    obtain ⟨d, hd, rfl⟩ := hPieces piece hPiece
    obtain rfl := List.mem_singleton.mp hc
    exact hd
  · intro h
    refine ⟨t.map fun c => [c], ?_, ?_⟩
    · rw [← List.flatMap_def, List.flatMap_singleton']
    · intro piece hPiece
      obtain ⟨c, hc, rfl⟩ := List.mem_map.mp hPiece
      exact ⟨c, h c hc, rfl⟩

theorem isNameStart_eq_true_iff {c : Char} : isNameStart c = true ↔ IsLetter c := by
  rw [isNameStart, isAlpha_iff, IsLetter]
  exact or_comm

theorem isNameChar_eq_true_iff {c : Char} : isNameChar c = true ↔ IsNameChar c := by
  have hLetter : c.isAlpha = true ↔ IsLetter c := isNameStart_eq_true_iff
  simp only [isNameChar, Char.isAlphanum, Char.isDigit, IsNameChar, Bool.or_eq_true, hLetter,
    Bool.and_eq_true, decide_eq_true_eq, beq_iff_eq, ge_iff_le, Char.le_def, or_assoc]

/-- The parser and the grammar agree on the characters of a value. -/
theorem isValueChar_eq_true_iff {c : Char} : isValueChar c = true ↔ IsValueChar c := by
  simp only [isValueChar, IsValueChar, Bool.or_eq_true, isNameChar_eq_true_iff, beq_iff_eq,
    or_assoc]

theorem mem_name_iff {t : Text} : t ∈ name ↔ isName t = true := by
  simp only [name, Language.mem_mul, mem_oneOf, mem_kstar_oneOf, ← isNameStart_eq_true_iff,
    ← isNameChar_eq_true_iff]
  constructor
  · rintro ⟨_, ⟨c, hc, rfl⟩, rest, hRest, rfl⟩
    simpa [isName, hc] using hRest
  · intro h
    cases t with
    | nil => exact absurd h (by decide)
    | cons c rest =>
        simp only [isName, Bool.and_eq_true, List.all_eq_true] at h
        exact ⟨[c], ⟨c, h.1, rfl⟩, rest, h.2, rfl⟩

theorem mem_kstar_valueChar {t : Text} :
    t ∈ (oneOf IsValueChar)∗ ↔ ∀ c ∈ t, isValueChar c = true := by
  simp only [mem_kstar_oneOf, isValueChar_eq_true_iff]

theorem mem_value_iff {t : Text} : t ∈ value ↔ isValue t = true := by
  simp only [value, Language.mem_mul, mem_oneOf, mem_kstar_valueChar, ← isValueChar_eq_true_iff]
  constructor
  · rintro ⟨_, ⟨c, hc, rfl⟩, rest, hRest, rfl⟩
    simpa [isValue, hc] using hRest
  · intro h
    cases t with
    | nil => exact absurd h (by decide)
    | cons c rest =>
        simp only [isValue, Bool.and_eq_true, List.all_eq_true, List.mem_cons, forall_eq_or_imp] at h
        exact ⟨[c], ⟨c, h.2.1, rfl⟩, rest, h.2.2, rfl⟩

/-- Every name is a value as well, so a value alone may look like a name. -/
theorem mem_value_of_mem_name {t : Text} (h : t ∈ name) : t ∈ value := by
  have hName := mem_name_iff.mp h
  have hChars : t.all isValueChar = true := List.all_eq_true.mpr fun c hc =>
    isNameChar_isValueChar (isNameChar_of_isName hName c hc)
  rw [mem_value_iff]
  cases t with
  | nil => exact absurd hName (by decide)
  | cons c t => simpa [isValue] using hChars

/-- An assignment falls into a name and a value around its equals sign. The value may be empty,
unlike a value that stands alone. -/
theorem mem_assignment_iff {t : Text} :
    t ∈ assignment ↔ ∃ n v, isName n = true ∧ (∀ c ∈ v, isValueChar c = true) ∧
      t = n ++ '=' :: v := by
  simp only [assignment, Language.mem_mul, mem_singleton, mem_name_iff, mem_kstar_valueChar]
  constructor
  · rintro ⟨_, ⟨n, hn, _, rfl, rfl⟩, v, hv, rfl⟩
    exact ⟨n, v, hn, hv, by simp⟩
  · rintro ⟨n, v, hn, hv, rfl⟩
    exact ⟨n ++ ['='], ⟨n, hn, ['='], rfl, rfl⟩, v, hv, by simp⟩

/-- The pattern of a parameter matches exactly the written parameters. -/
theorem mem_parameter_iff {t : Text} : t ∈ parameter ↔ ∃ p : Parameter, p.Writes t := by
  simp only [parameter, Language.mem_add, mem_value_iff, mem_assignment_iff]
  constructor
  · rintro (hValue | ⟨n, v, hn, hv, rfl⟩)
    · exact ⟨.bare t, .bare hValue⟩
    · exact ⟨.assignment n v, .assignment hn hv⟩
  · rintro ⟨p, hp⟩
    cases hp with
    | bare hValue => exact Or.inl hValue
    | @assignment n v hn hv => exact Or.inr ⟨n, v, hn, hv, rfl⟩

/-- A parameter has no ampersand, so ampersands set parameters apart. -/
theorem not_mem_of_mem_parameter {t : Text} (h : t ∈ parameter) : '&' ∉ t := by
  obtain ⟨p, hp⟩ := mem_parameter_iff.mp h
  exact Parameter.not_mem_of_writes hp

/-- What stands after the first piece, each further piece with the separator before it. -/
theorem join_cons_eq_flatten (sep : Char) (piece : Text) (pieces : List Text) :
    Text.join sep (piece :: pieces) = piece ++ (pieces.map fun p => sep :: p).flatten := by
  induction pieces generalizing piece with
  | nil => simp [Text.join]
  | cons next pieces ih => simp [Text.join, ih]

/-- An item, and any number of further ones with a separator before each, match by cutting the text
into pieces at separators, each of which matches the item. -/
theorem mem_separated_iff {item : Language Char} {sep : Char} {t : Text} :
    t ∈ item * ({[sep]} * item)∗ ↔ ∃ pieces, pieces ≠ [] ∧ (∀ piece ∈ pieces, piece ∈ item) ∧
      t = Text.join sep pieces := by
  simp only [Language.mem_mul, Language.mem_kstar, mem_singleton]
  constructor
  · rintro ⟨first, hFirst, _, ⟨blocks, rfl, hBlocks⟩, rfl⟩
    have hPieces : ∃ pieces : List Text, blocks = pieces.map (fun p => sep :: p) ∧
        ∀ p ∈ pieces, p ∈ item := by
      clear hFirst
      induction blocks with
      | nil => exact ⟨[], rfl, by simp⟩
      | cons block blocks ih =>
          obtain ⟨_, rfl, p, hp, rfl⟩ := hBlocks block List.mem_cons_self
          obtain ⟨pieces, rfl, hMem⟩ := ih fun b hb => hBlocks b (List.mem_cons_of_mem _ hb)
          exact ⟨p :: pieces, rfl, by simpa using ⟨hp, hMem⟩⟩
    obtain ⟨pieces, rfl, hMem⟩ := hPieces
    exact ⟨first :: pieces, List.cons_ne_nil _ _, by simpa using ⟨hFirst, hMem⟩,
      (join_cons_eq_flatten sep first pieces).symm⟩
  · rintro ⟨pieces, hNonempty, hMem, rfl⟩
    cases pieces with
    | nil => exact absurd rfl hNonempty
    | cons first pieces =>
        refine ⟨first, hMem first List.mem_cons_self, _,
          ⟨pieces.map fun p => sep :: p, rfl, ?_⟩, (join_cons_eq_flatten sep first pieces).symm⟩
        intro block hBlock
        obtain ⟨p, hp, rfl⟩ := List.mem_map.mp hBlock
        exact ⟨[sep], rfl, p, hMem p (List.mem_cons_of_mem _ hp), rfl⟩

/-- Every piece that the pattern of a parameter matches is read. -/
theorem exists_parseAll?_of_mem {pieces : List Text} (h : ∀ piece ∈ pieces, piece ∈ parameter) :
    ∃ ps, Parameter.parseAll? pieces = some ps := by
  induction pieces with
  | nil => exact ⟨[], rfl⟩
  | cons piece pieces ih =>
      obtain ⟨p, hp⟩ := mem_parameter_iff.mp (h piece List.mem_cons_self)
      obtain ⟨ps, hps⟩ := ih fun q hq => h q (List.mem_cons_of_mem _ hq)
      exact ⟨p :: ps, by simp [Parameter.parseAll?, Parameter.parse?_eq_some_iff.mpr hp, hps]⟩

/-- Whatever the reader takes apart consists of parameters of the grammar. -/
theorem mem_parameter_of_parseAll? {pieces : List Text} {ps : List Parameter}
    (h : Parameter.parseAll? pieces = some ps) : ∀ piece ∈ pieces, piece ∈ parameter := by
  intro piece hPiece
  have hMem : Parameter.parse? piece ∈ ps.map some :=
    Parameter.parseAll?_eq_some_iff.mp h ▸ List.mem_map_of_mem hPiece
  obtain ⟨p, _, hp⟩ := List.mem_map.mp hMem
  exact mem_parameter_iff.mpr ⟨p, Parameter.parse?_eq_some_iff.mp hp.symm⟩

/-- The pattern of a parameter list matches exactly the written parameter lists. -/
theorem mem_parameters_iff_writesList {t : Text} :
    t ∈ parameters ↔ ∃ ps, Parameter.WritesList ps t := by
  rw [parameters, mem_separated_iff]
  constructor
  · rintro ⟨pieces, hNonempty, hMem, rfl⟩
    obtain ⟨ps, hps⟩ := exists_parseAll?_of_mem hMem
    exact ⟨ps, Parameter.writesList_of_parseAll? hNonempty hps⟩
  · rintro ⟨ps, hList⟩
    exact ⟨Text.splitOn '&' t, Text.splitOn_ne_nil '&' t,
      mem_parameter_of_parseAll? (Parameter.parseAll?_of_writesList hList),
      (Text.join_splitOn '&' t).symm⟩

/-- The pattern of a call matches exactly the written calls. -/
theorem mem_call_iff {t : Text} : t ∈ call ↔ ∃ c : Call, c.Writes t := by
  simp only [call, Language.mem_mul, Language.mem_add, Language.mem_one, mem_singleton,
    mem_name_iff, mem_parameters_iff_writesList]
  constructor
  · rintro ⟨n, hName, rest, hRest, rfl⟩
    rcases hRest with rfl | ⟨_, rfl, list, ⟨ps, hList⟩, rfl⟩
    · exact ⟨⟨n, []⟩, by simpa using Writes.plain hName⟩
    · exact ⟨⟨n, ps⟩, .withParameters hName hList⟩
  · rintro ⟨c, hWrites⟩
    cases hWrites with
    | plain hName => exact ⟨t, hName, [], Or.inl rfl, by simp⟩
    | @withParameters n list ps hName hList =>
        exact ⟨n, hName, '?' :: list, Or.inr ⟨['?'], rfl, list, ⟨ps, hList⟩, rfl⟩, rfl⟩

/-- A matched piece with an equals sign was matched as an assignment, any other as a value. -/
theorem mem_of_mem_parameter {piece : Text} (h : piece ∈ parameter) :
    if '=' ∈ piece then piece ∈ assignment else piece ∈ value := by
  simp only [parameter, Language.mem_add] at h
  split
  · next hEquals =>
      rcases h with hValue | hAssignment
      · have hChars := mem_value_iff.mp hValue
        simp only [isValue, Bool.and_eq_true, List.all_eq_true] at hChars
        exact absurd (hChars.2 _ hEquals) (by decide)
      · exact hAssignment
  · next hEquals =>
      rcases h with hValue | hAssignment
      · exact hValue
      · obtain ⟨n, v, _, _, rfl⟩ := mem_assignment_iff.mp hAssignment
        exact absurd (by simp) hEquals

end CommandMarkup.Call.Pattern
