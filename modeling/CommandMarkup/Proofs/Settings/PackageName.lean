import CommandMarkup.Proofs.Call.Diagnosis
import CommandMarkup.Proofs.Call.Pattern
import CommandMarkup.Registry.Resolve
import CommandMarkup.Settings.Validation

/-! Names of packages. The pattern of a package name, read as a language, matches just the texts
that fall into identifiers when they are cut at their dots. A name with an empty part, a trailing
line break or a letter from beyond ASCII is none of them. Names of commands are identifiers, so that
a command has its module under a name of the same kind. -/
namespace CommandMarkup.Settings

open Computability Call.Pattern

/-- A letter or an underscore, and any run of name characters. -/
def identifier : Language Char := oneOf (fun c => IsLetter c ∨ c = '_') * (oneOf IsNameChar)∗

/-- An identifier, and any number of further ones with a dot before each. -/
def dottedName : Language Char := identifier * ({['.']} * identifier)∗

/-- The text starts with a letter or an underscore and goes on with letters, digits and underscores
of ASCII. -/
def IsIdentifier (t : Text) : Prop :=
  ∃ c rest, t = c :: rest ∧ (IsLetter c ∨ c = '_') ∧ ∀ d ∈ rest, IsNameChar d

/-- Between its dots the text holds identifiers and nothing else. -/
def IsPackageName (t : Text) : Prop := ∀ part ∈ Text.splitOn '.' t, IsIdentifier part

theorem mem_identifier_iff {t : Text} : t ∈ identifier ↔ IsIdentifier t := by
  simp only [identifier, Language.mem_mul, mem_oneOf, mem_kstar_oneOf]
  constructor
  · rintro ⟨_, ⟨c, hc, rfl⟩, rest, hRest, rfl⟩
    exact ⟨c, rest, rfl, hc, hRest⟩
  · rintro ⟨c, rest, rfl, hc, hRest⟩
    exact ⟨[c], ⟨c, hc, rfl⟩, rest, hRest, rfl⟩

/-- The check of identifiers decides the condition on their characters. -/
theorem isIdentifier_eq_true_iff {t : Text} : isIdentifier t = true ↔ IsIdentifier t := by
  have hStart : ∀ c, (c.isAlpha || c == '_') = true ↔ IsLetter c ∨ c = '_' := by
    intro c
    rw [Bool.or_eq_true, beq_iff_eq, ← isNameStart_eq_true_iff, Call.isNameStart]
  cases t with
  | nil =>
      constructor
      · intro h
        cases h
      · rintro ⟨c, rest, hText, _⟩
        cases hText
  | cons c rest =>
      have hRest : (rest.all fun d => d.isAlphanum || d == '_') = true ↔
          ∀ d ∈ rest, IsNameChar d := by
        rw [List.all_eq_true]
        exact forall₂_congr fun d _ => isNameChar_eq_true_iff
      rw [isIdentifier, Bool.and_eq_true, hStart, hRest]
      constructor
      · rintro ⟨hc, hRest⟩
        exact ⟨c, rest, rfl, hc, hRest⟩
      · rintro ⟨_, _, hText, hc, hRest⟩
        cases hText
        exact ⟨hc, hRest⟩

/-- The check of dotted names decides the condition on the pieces between the dots. -/
theorem isDottedName_eq_true_iff {t : Text} : isDottedName t = true ↔ IsPackageName t := by
  rw [isDottedName, List.all_eq_true]
  exact forall₂_congr fun part _ => isIdentifier_eq_true_iff

/-- An identifier is a name character followed by name characters, and the dot is none. -/
theorem IsIdentifier.not_mem {t : Text} (h : IsIdentifier t) : '.' ∉ t := by
  have hDot : ¬ IsNameChar '.' := fun h => absurd (isNameChar_eq_true_iff.mpr h) (by decide)
  obtain ⟨c, rest, rfl, hc, hRest⟩ := h
  intro hMem
  rcases List.mem_cons.mp hMem with rfl | hMem
  · rcases hc with hLetter | hUnderscore
    · exact hDot (.inl hLetter)
    · exact absurd hUnderscore (by decide)
  · exact hDot (hRest '.' hMem)

/-- The pattern matches a text in full if and only if the pieces between its dots are
identifiers. -/
theorem mem_dottedName_iff {t : Text} : t ∈ dottedName ↔ IsPackageName t := by
  rw [dottedName, mem_separated_iff]
  simp only [mem_identifier_iff]
  constructor
  · rintro ⟨pieces, hNonempty, hPieces, rfl⟩
    rw [IsPackageName,
      Text.splitOn_join hNonempty fun piece hPiece => (hPieces piece hPiece).not_mem]
    exact hPieces
  · intro h
    exact ⟨Text.splitOn '.' t, Text.splitOn_ne_nil '.' t, h, (Text.join_splitOn '.' t).symm⟩

/-- Every name of a command is an identifier. -/
theorem isIdentifier_of_isName {name : Text} (h : Call.isName name = true) :
    IsIdentifier name := by
  obtain ⟨_, ⟨c, hc, rfl⟩, rest, hRest, rfl⟩ := mem_name_iff.mpr h
  exact ⟨c, rest, rfl, .inl hc, mem_kstar_oneOf.mp hRest⟩

/-- The module of a command in a package has the parts of the package name and the command for its
parts. -/
theorem splitOn_moduleNameIn (package : Text) {name : Text} (hName : Call.isName name = true) :
    Text.splitOn '.' (Registry.moduleNameIn package name) = Text.splitOn '.' package ++ [name] := by
  have hParts := Text.splitOn_join_append (Text.splitOn_ne_nil '.' package)
    (fun _ hPiece => Text.not_mem_of_mem_splitOn hPiece) name
  rw [Text.join_splitOn, Text.splitOn_of_not_mem (isIdentifier_of_isName hName).not_mem] at hParts
  exact hParts

/-- A package name and the name of a command make a dotted name again. -/
theorem IsPackageName.moduleNameIn {package name : Text} (h : IsPackageName package)
    (hName : Call.isName name = true) : IsPackageName (Registry.moduleNameIn package name) := by
  rw [IsPackageName, splitOn_moduleNameIn package hName]
  intro part hPart
  rcases List.mem_append.mp hPart with hPart | hPart
  · exact h part hPart
  · rw [List.mem_singleton.mp hPart]
    exact isIdentifier_of_isName hName

/-- A dot too many, at either end or inside, leaves an empty part. -/
example : ["a.b_1._c", "", ".a", "a.", "a..b", "1a", "a-b", "a\n", "é"].map
    (fun t => isDottedName t.toList) =
      [true, false, false, false, false, false, false, false, false] := by decide

end CommandMarkup.Settings
