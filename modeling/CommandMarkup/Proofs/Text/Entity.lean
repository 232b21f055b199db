import CommandMarkup.Text.Escape

/-! Entities and what reads them back. A text is inert in the body of a document when no character
of it can open or close a tag or a quotation, and no ampersand stands for anything but an entity.

Main statements: an escaped text is inert (`inert_escape`), and an escaped attribute value has no
quotation mark and is read back as the value (`quotable_escapeAttribute`,
`decode_escapeAttribute`). -/
namespace CommandMarkup.Text

/-- The entities that the body of a document is written with, and the characters they stand for. -/
def bodyEntities : List (Text × Char) :=
  [("&amp;".toList, '&'), ("&lt;".toList, '<'), ("&gt;".toList, '>'), ("&quot;".toList, '"')]

/-- Those of attribute values: there the single quotation mark is an entity too. -/
def attributeEntities : List (Text × Char) := bodyEntities ++ [("&#x27;".toList, '\'')]

/-- Reads a text with entities, after so many characters that have been read already. -/
def decodeFrom (skip : Nat) : Text → Text
  | [] => []
  | c :: t =>
    match skip with
    | skip + 1 => decodeFrom skip t
    | 0 =>
      match attributeEntities.find? fun entity => entity.1.isPrefixOf (c :: t) with
      | some entity => entity.2 :: decodeFrom (entity.1.length - 1) t
      | none => c :: decodeFrom 0 t

/-- The text with every entity replaced by the character it stands for. -/
def decode (t : Text) : Text := decodeFrom 0 t

/-- Nothing in the text is read as markup: no tag, no quotation, no entity but the four. -/
structure Inert (t : Text) : Prop where
  marks : ∀ c ∈ t, c ∉ ['<', '>', '"']
  ampersands : ∀ before after, t = before ++ '&' :: after →
    ∃ entity ∈ bodyEntities, entity.1 <+: '&' :: after

/-- The text can stand as an attribute value between quotation marks of either kind. -/
def Quotable (t : Text) : Prop := ∀ c ∈ t, c ∉ ['<', '>', '"', '\'']

theorem inert_nil : Inert [] where
  marks := nofun
  ampersands := by
    intro before after h
    exact absurd (congrArg List.length h) (by simp)

/-- A character that is no mark may stand before an inert text, an ampersand if it starts an
entity. -/
theorem Inert.cons {c : Char} {t : Text} (h : Inert t) (hMark : c ∉ ['<', '>', '"'])
    (hAmpersand : c = '&' → ∃ entity ∈ bodyEntities, entity.1 <+: '&' :: t) : Inert (c :: t) where
  marks := by
    intro d hd
    rcases List.mem_cons.mp hd with rfl | hd
    · exact hMark
    · exact h.marks d hd
  ampersands := by
    intro before after hText
    cases before with
    | nil =>
        obtain ⟨hHead, rfl⟩ := List.cons.inj hText
        exact hAmpersand hHead
    | cons b before =>
        obtain ⟨_, rfl⟩ := List.cons.inj hText
        exact h.ampersands before after rfl

theorem Inert.append {front t : Text} (h : Inert t)
    (hFront : ∀ c ∈ front, c ∉ ['&', '<', '>', '"']) : Inert (front ++ t) := by
  induction front with
  | nil => exact h
  | cons c front ih =>
      obtain ⟨hAmpersand, hMark⟩ := List.ne_and_not_mem_of_not_mem_cons
        (hFront c List.mem_cons_self)
      have hRest : Inert (front ++ t) := ih fun d hd => hFront d (List.mem_cons_of_mem _ hd)
      exact hRest.cons hMark fun hc => absurd hc hAmpersand

/-- An entity is an ampersand and a name without any mark. -/
theorem Inert.entity {entity : Text × Char} {t : Text} (h : Inert t)
    (hEntity : entity ∈ bodyEntities) : Inert (entity.1 ++ t) := by
  have hName : ∀ entity ∈ bodyEntities, entity.1 = '&' :: entity.1.tail ∧
      (entity.1.tail.all fun c => c ∉ ['&', '<', '>', '"']) = true := by decide
  obtain ⟨hHead, hFree⟩ := hName entity hEntity
  rw [hHead]
  refine (h.append fun c hc => of_decide_eq_true (List.all_eq_true.mp hFree c hc)).cons
    (by decide) ?_
  intro _
  exact ⟨entity, hEntity, by rw [← List.cons_append, ← hHead]; exact List.prefix_append _ t⟩

/-- A character is written as its entity if it has one, and as itself otherwise. -/
theorem escapeChar_cases (c : Char) :
    (escapeChar c, c) ∈ bodyEntities ∨ escapeChar c = [c] ∧ c ∉ ['&', '<', '>', '"'] := by
  by_cases hMark : c ∈ ['&', '<', '>', '"']
  · left
    simp only [List.mem_cons, List.not_mem_nil, or_false] at hMark
    rcases hMark with rfl | rfl | rfl | rfl <;> decide
  · right
    simp only [List.mem_cons, List.not_mem_nil, or_false, not_or] at hMark
    obtain ⟨hAmp, hLess, hGreater, hQuote⟩ := hMark
    rw [escapeChar, if_neg hAmp, if_neg hLess, if_neg hGreater, if_neg hQuote]
    simp [hAmp, hLess, hGreater, hQuote]

/-- Escaped text is inert: it has no markup, and every ampersand in it starts an entity. -/
theorem inert_escape (t : Text) : Inert (escape t) := by
  rw [escape_eq_flatMap]
  induction t with
  | nil => exact inert_nil
  | cons c t ih =>
      rw [List.flatMap_cons]
      rcases escapeChar_cases c with hEntity | ⟨hSelf, hPlain⟩
      · exact ih.entity hEntity
      · rw [hSelf]
        exact ih.append (List.forall_mem_singleton.mpr hPlain)

/-- How one character is written in an attribute value. -/
def attributeChar (c : Char) : Text := replaceChar '\'' "&#x27;".toList (escapeChar c)

theorem escapeAttribute_eq_flatMap (t : Text) : escapeAttribute t = t.flatMap attributeChar := by
  rw [escapeAttribute, escape_eq_flatMap, replaceChar, List.flatMap_assoc]
  rfl

/-- Each character is written as its entity in an attribute, or as itself if it has none. -/
theorem attributeChar_cases (c : Char) :
    (attributeChar c, c) ∈ attributeEntities ∨
      attributeChar c = [c] ∧ c ∉ ['&', '<', '>', '"', '\''] := by
  by_cases hMark : c ∈ ['&', '<', '>', '"', '\'']
  · left
    simp only [List.mem_cons, List.not_mem_nil, or_false] at hMark
    rcases hMark with rfl | rfl | rfl | rfl | rfl <;> decide
  · refine .inr ⟨?_, hMark⟩
    rcases escapeChar_cases c with hEntity | ⟨hSelf, _⟩
    · have hAll : ∀ entity ∈ bodyEntities, entity.2 ∈ ['&', '<', '>', '"', '\''] := by decide
      exact absurd (hAll _ hEntity) hMark
    · rw [attributeChar, hSelf, replaceChar_singleton]
      rintro rfl
      exact hMark (by decide)

/-- What is escaped for an attribute stays within its quotation marks. -/
theorem quotable_escapeAttribute (t : Text) : Quotable (escapeAttribute t) := by
  rw [escapeAttribute_eq_flatMap]
  intro d hd
  obtain ⟨c, _, hd⟩ := List.mem_flatMap.mp hd
  rcases attributeChar_cases c with hEntity | ⟨hSelf, hPlain⟩
  · have hAll : ∀ entity ∈ attributeEntities,
        (entity.1.all fun d => d ∉ ['<', '>', '"', '\'']) = true := by decide
    exact of_decide_eq_true (List.all_eq_true.mp (hAll _ hEntity) d hd)
  · rw [hSelf, List.mem_singleton] at hd
    exact hd ▸ List.not_mem_of_not_mem_cons hPlain

theorem decode_cons {c : Char} (h : c ≠ '&') (t : Text) : decode (c :: t) = c :: decode t := by
  have hHead : ∀ entity ∈ attributeEntities, entity.1 = '&' :: entity.1.tail := by decide
  have hNone : (attributeEntities.find? fun entity => entity.1.isPrefixOf (c :: t)) = none := by
    rw [List.find?_eq_none]
    intro entity hEntity hPrefix
    rw [hHead entity hEntity, List.isPrefixOf_iff_prefix, List.cons_prefix_cons] at hPrefix
    exact h hPrefix.1.symm
  rw [decode, decodeFrom, hNone]
  rfl

/-- No entity starts another one, so each is read as its own character. -/
theorem decode_entity {entity : Text × Char} (h : entity ∈ attributeEntities) (t : Text) :
    decode (entity.1 ++ t) = entity.2 :: decode t := by
  simp only [attributeEntities, bodyEntities, List.cons_append, List.nil_append, List.mem_cons,
    List.not_mem_nil, or_false] at h
  rcases h with rfl | rfl | rfl | rfl | rfl <;> rfl

/-- What is escaped for an attribute is read back as it was. -/
theorem decode_escapeAttribute (t : Text) : decode (escapeAttribute t) = t := by
  rw [escapeAttribute_eq_flatMap]
  induction t with
  | nil => rfl
  | cons c t ih =>
      rw [List.flatMap_cons]
      rcases attributeChar_cases c with hEntity | ⟨hSelf, hPlain⟩
      · rw [decode_entity hEntity, ih]
      · have hAmpersand := List.ne_of_not_mem_cons hPlain
        rw [hSelf, List.singleton_append, decode_cons hAmpersand, ih]

end CommandMarkup.Text
