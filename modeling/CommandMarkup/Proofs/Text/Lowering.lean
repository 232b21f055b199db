import CommandMarkup.Proofs.Call.Spelling

/-! Which texts are names in lower case. Of the characters beyond ASCII, the Kelvin sign alone has a
letter as its lower case, namely `k`. Every other one leaves something in the lower case that no
name has. So a text is a name in lower case exactly when it is one with the letter `K` for the
Kelvin sign (`isName_lower`), and then its lower case is that of ASCII (`lower_eq_of_isName`). -/
namespace CommandMarkup

namespace Text

/-- The letter `K` for the Kelvin sign, any other character as it is. -/
def latin (c : Char) : Char := if c = '\u212a' then 'K' else c

theorem latin_of_ne {c : Char} (h : c ≠ '\u212a') : latin c = c := if_neg h

theorem map_latin_of_not_mem {t : Text} (h : '\u212a' ∉ t) : t.map latin = t := by
  have hSame : ∀ c ∈ t, latin c = id c := by
    intro c hc
    refine latin_of_ne ?_
    rintro rfl
    exact h hc
  rw [List.map_congr_left hSame, List.map_id]

/-- No run but that of the Kelvin sign leads to ASCII. -/
theorem lowerRuns_shift : ∀ run ∈ lowerRuns,
    (run.first = 0x212a ∧ run.last = 0x212a) ∨ 128 ≤ (run.first : Int) + run.shift := by
  decide +kernel

end Text

namespace Call

theorem isNameChar_eq_false {c : Char} (h : 128 ≤ c.toNat) : isNameChar c = false := by
  rw [← Bool.not_eq_true]
  intro hName
  have hAscii := isAscii_of_isNameChar hName
  rw [Text.isAscii, decide_eq_true_eq] at hAscii
  omega

/-- A number that is no code point stands for the null character, which no name has either. -/
theorem isNameChar_ofNat {n : Nat} (h : 128 ≤ n) : isNameChar (Char.ofNat n) = false := by
  by_cases hValid : n.isValidChar
  · rw [Char.ofNat, dif_pos hValid]
    exact isNameChar_eq_false h
  · rw [Char.ofNat, dif_neg hValid]
    decide

open Text

/-- The lower case of a character beyond ASCII is beyond names too, but for the Kelvin sign. -/
theorem convert_lowerRuns {c : Char} (h : 128 ≤ c.toNat) :
    (c = '\u212a' ∧ CaseRun.convert lowerRuns c = 'k') ∨
      (c ≠ '\u212a' ∧ isNameChar (CaseRun.convert lowerRuns c) = false) := by
  by_cases hKelvin : c = '\u212a'
  · subst hKelvin
    exact .inl ⟨rfl, by decide +kernel⟩
  · refine .inr ⟨hKelvin, ?_⟩
    rw [CaseRun.convert]
    split
    case h_2 => exact isNameChar_eq_false h
    case h_1 run hFind =>
      have hCovers := List.find?_some hFind
      simp only [CaseRun.covers, Bool.and_eq_true, decide_eq_true_eq] at hCovers
      obtain ⟨⟨hFirst, hLast⟩, _⟩ := hCovers
      refine isNameChar_ofNat ?_
      rcases lowerRuns_shift run (List.mem_of_find?_eq_some hFind) with ⟨hf, hl⟩ | hShift
      · have hCode : c.toNat = 0x212a := by omega
        exact absurd (Char.toNat_inj.mp hCode) hKelvin
      · omega

/-- The lower case of a character is a letter of names where the character is one with the letter
for the Kelvin sign, and then it is that of ASCII. Otherwise it has something that no name has. -/
theorem lowerChar_cases (c : Char) :
    (isNameChar (latin c) = true ∧ lowerChar c = [(latin c).toLower]) ∨
      (isNameChar (latin c) = false ∧ ∃ d ∈ lowerChar c, isNameChar d = false) := by
  cases hAscii : isAscii c with
  | true =>
      have hLatin : latin c = c := by
        refine latin_of_ne ?_
        rintro rfl
        exact absurd hAscii (by decide)
      rw [hLatin, lowerChar, if_pos hAscii]
      cases hc : isNameChar c with
      | true => exact .inl ⟨rfl, rfl⟩
      | false =>
          refine .inr ⟨rfl, c.toLower, List.mem_singleton_self _, ?_⟩
          rw [isNameChar_toLower, hc]
  | false =>
      have hCode : 128 ≤ c.toNat := by simpa [isAscii] using hAscii
      rw [lowerChar, if_neg (Bool.not_eq_true _ ▸ hAscii)]
      split
      case isTrue hDotted =>
        subst hDotted
        refine .inr ⟨by decide, '\u0307', ?_, by decide⟩
        exact List.mem_cons_of_mem _ (List.mem_singleton_self _)
      case isFalse =>
        rcases convert_lowerRuns hCode with ⟨rfl, hLower⟩ | ⟨hKelvin, hLower⟩
        · rw [hLower]
          exact .inl (by decide)
        · rw [latin_of_ne hKelvin]
          exact .inr ⟨isNameChar_eq_false hCode, _, List.mem_singleton_self _, hLower⟩

/-- A capital sigma is no letter of names, whichever lower case it takes. -/
theorem lowerAfter_cases (before t : Text) :
    ((∀ c ∈ t, isNameChar (latin c) = true) ∧
      lowerAfter before t = (t.map latin).map Char.toLower) ∨
      ((∃ c ∈ t, isNameChar (latin c) = false) ∧
        ∃ d ∈ lowerAfter before t, isNameChar d = false) := by
  induction t generalizing before with
  | nil => exact .inl ⟨nofun, rfl⟩
  | cons c t ih =>
      rw [lowerAfter]
      split
      case isTrue hSigma =>
        obtain ⟨rfl, _⟩ := hSigma
        refine .inr ⟨⟨'Σ', List.mem_cons_self, by decide⟩, 'ς', ?_, by decide⟩
        exact List.mem_append_left _ (List.mem_singleton_self _)
      case isFalse =>
        rcases lowerChar_cases c with ⟨hc, hLower⟩ | ⟨hc, d, hd, hLower⟩
        · rcases ih (c :: before) with ⟨hRest, hMap⟩ | ⟨⟨e, he, hBad⟩, d, hd, hLeft⟩
          · refine .inl ⟨List.forall_mem_cons.mpr ⟨hc, hRest⟩, ?_⟩
            rw [hLower, hMap]
            rfl
          · exact .inr ⟨⟨e, List.mem_cons_of_mem _ he, hBad⟩, d, List.mem_append_right _ hd, hLeft⟩
        · exact .inr ⟨⟨c, List.mem_cons_self, hc⟩, d, List.mem_append_left _ hd, hLower⟩

/-- One character that is out of place spoils a name. -/
theorem isName_eq_false {t : Text} {c : Char} (hMem : c ∈ t) (hc : isNameChar c = false) :
    isName t = false := by
  rw [← Bool.not_eq_true]
  intro hName
  rw [isNameChar_of_isName hName c hMem] at hc
  cases hc

/-- Lowering makes a name only of what is one already, up to the one sign that turns into a letter
of ASCII. -/
theorem isName_lower (t : Text) : isName (lower t) = isName (t.map latin) := by
  rcases lowerAfter_cases [] t with ⟨_, hLower⟩ | ⟨⟨c, hc, hBad⟩, d, hd, hLeft⟩
  · rw [lower, hLower, isName_map_toLower]
  · rw [lower, isName_eq_false hd hLeft, isName_eq_false (List.mem_map_of_mem hc) hBad]

/-- The small form of a name is that of its letters. -/
theorem lower_eq_of_isName {t : Text} (h : isName (t.map latin) = true) :
    lower t = (t.map latin).map Char.toLower := by
  rcases lowerAfter_cases [] t with ⟨_, hLower⟩ | ⟨⟨c, hc, hBad⟩, _⟩
  · exact hLower
  · rw [isName_eq_false (List.mem_map_of_mem hc) hBad] at h
    cases h

/-- A name that is written with Kelvin signs has the lower case of the name. -/
theorem lower_map_latin {t : Text} (h : isName (t.map latin) = true) :
    lower (t.map latin) = lower t := by
  rw [lower_name h, lower_eq_of_isName h]

example : lower ['\u212a', 'I'] = ['k', 'i'] ∧ isName ['\u212a', 'I'] = false := by decide +kernel

end Call

end CommandMarkup
