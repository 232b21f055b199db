import CommandMarkup.Proofs.Call.RoundTrip

/-! Spellings of a call. Texts that differ in nothing but the case of the letters before the question
mark are read as the same call, or both as none. -/
namespace CommandMarkup

namespace Text

theorem toLower_of_not_isAscii {c : Char} (h : ¬ isAscii c = true) : c.toLower = c := by
  refine dif_neg ?_
  rintro ⟨_, hUpper⟩
  have hVal : c.toNat ≤ 90 := UInt32.le_iff_toNat_le.mp hUpper
  rw [isAscii, decide_eq_true_eq] at h
  omega

/-- What holds of every character of ASCII with its lower case, and of every character with itself,
holds of every character with its lower case. -/
theorem forall_toLower {p : Char → Char → Prop}
    (hAscii : ∀ n : Fin 128, p (Char.ofNat n) (Char.ofNat n).toLower) (hSame : ∀ c, p c c)
    (c : Char) : p c c.toLower := by
  by_cases hc : isAscii c = true
  · exact forall_ascii (p := fun c => p c c.toLower) hAscii hc
  · rw [toLower_of_not_isAscii hc]
    exact hSame c

end Text

namespace Call

theorem isNameStart_toLower (c : Char) : isNameStart c.toLower = isNameStart c :=
  Text.forall_toLower (p := fun c d => isNameStart d = isNameStart c) (by decide) (fun _ => rfl) c

theorem isNameChar_toLower (c : Char) : isNameChar c.toLower = isNameChar c :=
  Text.forall_toLower (p := fun c d => isNameChar d = isNameChar c) (by decide) (fun _ => rfl) c

theorem toLower_eq_parenthesis_iff (c : Char) : c.toLower = '(' ↔ c = '(' :=
  Text.forall_toLower (p := fun c d => d = '(' ↔ c = '(') (by decide) (fun _ => Iff.rfl) c

/-- Whether a text is a name does not depend on the case of its letters. -/
theorem isName_map_toLower (name : Text) : isName (name.map Char.toLower) = isName name := by
  cases name with
  | nil => rfl
  | cons c rest =>
      have hRest : isNameChar ∘ Char.toLower = isNameChar := funext isNameChar_toLower
      rw [List.map_cons, isName, isName, isNameStart_toLower, List.all_map, hRest]

/-- The texts differ at most in the case of ASCII letters, and only in front of the question
mark. -/
def SameButCase (t u : Text) : Prop :=
  (Text.cut '?' t).2 = (Text.cut '?' u).2 ∧
    (Text.cut '?' t).1.map Char.toLower = (Text.cut '?' u).1.map Char.toLower

theorem SameButCase.symm {t u : Text} (h : SameButCase t u) : SameButCase u t :=
  ⟨h.1.symm, h.2.symm⟩

/-- Texts that differ in the case of the letters of the name alone are read as the same call. -/
theorem SameButCase.parse?_eq {t u : Text} (h : SameButCase t u) : parse? t = parse? u := by
  obtain ⟨hList, hCase⟩ := h
  rcases hCutT : Text.cut '?' t with ⟨name, list?⟩
  rcases hCutU : Text.cut '?' u with ⟨spelled, given?⟩
  rw [hCutT, hCutU] at hList hCase
  dsimp only at hList hCase
  subst hList
  have hName : isName name = isName spelled := by
    rw [← isName_map_toLower, hCase, isName_map_toLower]
  rw [parse?, parse?, read?, read?, hCutT, hCutU]
  cases hSpelled : isName spelled with
  | false =>
      rw [hSpelled] at hName
      cases list? <;> simp only [hName, hSpelled, Bool.false_eq_true, if_false]
  | true =>
      rw [hSpelled] at hName
      have hLower : Text.lower name = Text.lower spelled := by
        rw [lower_name hName, lower_name hSpelled, hCase]
      have hLowered : ∀ ps, lowered ⟨name, ps⟩ = lowered ⟨spelled, ps⟩ := fun ps => by
        rw [lowered, lowered, hLower]
      cases list? with
      | none => simp only [hName, hSpelled, if_true, Option.map_some, hLowered]
      | some list =>
          simp only [hName, hSpelled, if_true, Option.map_map, Function.comp_def, hLowered]

theorem parse_eq_ok_iff_parse? {t : Text} {call : Call} :
    parse t = .ok call ↔ parse? t = some call := by
  rw [parse_eq_ok_iff]
  simp only [parse?, Option.map_eq_some_iff, read?_eq_some_iff]

/-- The case of the letters of a name decides nothing about whether a call is accepted. -/
theorem SameButCase.parse_iff {t u : Text} (h : SameButCase t u) {call : Call} :
    parse t = .ok call ↔ parse u = .ok call := by
  rw [parse_eq_ok_iff_parse?, parse_eq_ok_iff_parse?, h.parse?_eq]

/-- A character other than the separator lies on one side of it or on the other. -/
theorem mem_cut_iff {sep c : Char} (hNe : c ≠ sep) (t : Text) :
    c ∈ t ↔ c ∈ (Text.cut sep t).1 ∨ ∃ rest, (Text.cut sep t).2 = some rest ∧ c ∈ rest := by
  rcases hCut : Text.cut sep t with ⟨before, after?⟩
  cases after? with
  | none =>
      obtain ⟨rfl, _⟩ := Text.cut_eq_none_iff.mp hCut
      simp
  | some after =>
      obtain ⟨rfl, _⟩ := Text.cut_eq_some_iff.mp hCut
      simp [hNe]

/-- A change of case brings no parenthesis in and takes none away, so the splitter cuts both texts
at the same place. -/
theorem SameButCase.parenthesis_mem_iff {t u : Text} (h : SameButCase t u) :
    '(' ∈ t ↔ '(' ∈ u := by
  have hFold : ∀ name : Text, '(' ∈ name ↔ '(' ∈ name.map Char.toLower := by
    intro name
    simp only [List.mem_map, toLower_eq_parenthesis_iff, exists_eq_right]
  have hNe : '(' ≠ '?' := by decide
  rw [mem_cut_iff hNe t, mem_cut_iff hNe u, h.1, hFold, h.2, ← hFold]

end Call

end CommandMarkup
