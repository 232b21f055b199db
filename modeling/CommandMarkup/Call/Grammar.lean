import CommandMarkup.Call.Basic
import CommandMarkup.Text.Case

/-!
The grammar of calls: a name, then, after a question mark, one or more parameters parted by
ampersands.

    call      ::= name ('?' parameter ('&' parameter)*)?
    parameter ::= value | name '=' value?
    name      ::= letter (letter | digit | '_')*
    value     ::= (letter | digit | '_' | '.' | '-')+

Letters and digits are those of ASCII. The relations `Parameter.Writes`, `Parameter.WritesList` and
`Call.Writes` say which text is a written form of what.
-/

namespace CommandMarkup

namespace Call

/-- A name starts with an ASCII letter. -/
def isNameStart (c : Char) : Bool := c.isAlpha

/-- A name goes on with ASCII letters, digits and underscores. -/
def isNameChar (c : Char) : Bool := c.isAlphanum || c == '_'

/-- A value also has dots and hyphens. -/
def isValueChar (c : Char) : Bool := isNameChar c || c == '.' || c == '-'

/-- Whether the whole text is a name. -/
def isName : Text → Bool
  | [] => false
  | c :: rest => isNameStart c && rest.all isNameChar

/-- Whether the whole text is a value, which has at least one character. -/
def isValue (t : Text) : Bool := !t.isEmpty && t.all isValueChar

theorem isNameStart_isNameChar {c : Char} (h : isNameStart c = true) : isNameChar c = true := by
  simp only [isNameStart] at h
  simp [isNameChar, Char.isAlphanum, h]

theorem isNameChar_isValueChar {c : Char} (h : isNameChar c = true) : isValueChar c = true := by
  simp [isValueChar, h]

theorem isNameChar_of_isName {t : Text} (h : isName t = true) : ∀ c ∈ t, isNameChar c = true := by
  cases t with
  | nil => simp
  | cons d t =>
    simp only [isName, Bool.and_eq_true, List.all_eq_true] at h
    intro c hc
    rcases List.mem_cons.1 hc with rfl | hc
    · exact isNameStart_isNameChar h.1
    · exact h.2 c hc

/-- The letters of ASCII are those from `A` to `Z` and from `a` to `z`. -/
theorem isAlpha_iff {c : Char} : c.isAlpha = true ↔ ('A' ≤ c ∧ c ≤ 'Z') ∨ ('a' ≤ c ∧ c ≤ 'z') := by
  have hAlpha : c.isAlpha = (c.isUpper || c.isLower) := rfl
  have hUpper : c.isUpper = decide ('A' ≤ c ∧ c ≤ 'Z') := rfl
  have hLower : c.isLower = (decide ('a' ≤ c) && decide (c ≤ 'z')) := rfl
  rw [hAlpha, hUpper, hLower, Bool.or_eq_true, Bool.and_eq_true, decide_eq_true_eq,
    decide_eq_true_eq, decide_eq_true_eq]

theorem isAscii_of_isNameChar {c : Char} (h : isNameChar c = true) : Text.isAscii c = true := by
  simp only [isNameChar, Char.isAlphanum, Char.isDigit, Bool.or_eq_true, isAlpha_iff, Char.le_def,
    Bool.and_eq_true, decide_eq_true_eq, beq_iff_eq, ge_iff_le] at h
  simp only [Text.isAscii, decide_eq_true_eq, Char.toNat]
  have hNat : ∀ a b : UInt32, a ≤ b ↔ a.toNat ≤ b.toNat := fun a b => UInt32.le_iff_toNat_le
  rcases h with ((⟨_, h⟩ | ⟨_, h⟩) | ⟨_, h⟩) | rfl
  · exact Nat.lt_of_le_of_lt ((hNat _ _).1 h) (by decide)
  · exact Nat.lt_of_le_of_lt ((hNat _ _).1 h) (by decide)
  · exact Nat.lt_of_le_of_lt ((hNat _ _).1 h) (by decide)
  · decide

/-- Lower case works letter by letter on names. -/
theorem lower_name {t : Text} (h : isName t = true) : Text.lower t = t.map Char.toLower :=
  Text.lower_eq_map fun c hc => isAscii_of_isNameChar (isNameChar_of_isName h c hc)

end Call

namespace Parameter

/-- `p.Writes t` says that the grammar derives the text `t` for the parameter `p`. -/
inductive Writes : Parameter → Text → Prop where
  | bare {value : Text} (hValue : Call.isValue value = true) : Writes (.bare value) value
  | assignment {name value : Text} (hName : Call.isName name = true)
      (hValue : ∀ c ∈ value, Call.isValueChar c = true) :
      Writes (.assignment name value) (name ++ '=' :: value)

/-- The same for one or more parameters parted by ampersands. -/
inductive WritesList : List Parameter → Text → Prop where
  | one {p : Parameter} {t : Text} (hHead : p.Writes t) : WritesList [p] t
  | more {p : Parameter} {ps : List Parameter} {t u : Text} (hHead : p.Writes t)
      (hRest : WritesList ps u) : WritesList (p :: ps) (t ++ '&' :: u)

end Parameter

namespace Call

/-- `call.Writes t` says that the grammar derives the text `t` for `call`, whose name is as the text
writes it. -/
inductive Writes : Call → Text → Prop where
  | plain {name : Text} (hName : isName name = true) : Writes ⟨name, []⟩ name
  | withParameters {name t : Text} {ps : List Parameter} (hName : isName name = true)
      (hList : Parameter.WritesList ps t) : Writes ⟨name, ps⟩ (name ++ '?' :: t)

/-- The call with its name in lower case. -/
def lowered (call : Call) : Call := { call with name := Text.lower call.name }

end Call

end CommandMarkup
