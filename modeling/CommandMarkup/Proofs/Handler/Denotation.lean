import CommandMarkup.Proofs.Calendar.Writing
import CommandMarkup.Proofs.Handler.DateTime
import CommandMarkup.Proofs.Text.Escaping

/-! The `dt` command by what its content denotes. All spellings of a day and a time on it come to
the same, blanks around them or not, and a date that was written in one of them can be read again.

Main statement: `prepare_denoted`. -/
namespace CommandMarkup.Handler.DateTime

open Calendar

variable {settings : Settings} {date : Date} {time : TimeOfDay} {t content pattern : Text}

/-- The text with blanks around it. -/
inductive Padded (t : Text) : Text → Prop where
  | blanks {before after : Text} (hBefore : ∀ c ∈ before, Text.isBlank c = true)
      (hAfter : ∀ c ∈ after, Text.isBlank c = true) : Padded t (before ++ t ++ after)

/-- The parameters select a variant with that class and pattern. -/
def Formats (settings : Settings) (parameters : List Parameter) (cssClass pattern : Text) : Prop :=
  ∃ variant, Selects parameters variant ∧ Splits (configured settings variant) cssClass pattern

/-- The markup of a moment in a format. -/
def markup (embedding : EmbeddingType) (cssClass pattern : Text) (moment : Moment) : Text :=
  (wrapperOf embedding cssClass).around (Text.escape (moment.format pattern))

/-- What the command comes to for contents that denote the date. -/
structure Denoted (date : Date) : Prop where
  spelled : ∀ time t content, Spells date time t → Padded t content →
    ∀ settings parameters cssClass pattern, Formats settings parameters cssClass pattern →
      pattern ≠ [] → ∀ now embedding,
        prepare settings now ⟨embedding, parameters, content⟩ =
          .ok (.text (markup embedding cssClass pattern ⟨date, time, none⟩))
  again : 1000 ≤ date.year → ∀ t content, SpellsDate date t → Padded t content →
    ∀ settings parameters pattern, Formats settings parameters [] pattern →
      pattern ∈ datePatterns → ∀ now, ∃ output,
        prepare settings now ⟨.inline, parameters, content⟩ = .ok (.text output) ∧
        ∀ settings parameters cssClass pattern, Formats settings parameters cssClass pattern →
          pattern ≠ [] → ∀ now embedding, ∃ result,
            prepare settings now ⟨embedding, parameters, output⟩ = .ok result ∧
            prepare settings now ⟨embedding, parameters, content⟩ = .ok result

/-- Blanks around a text that has none at its ends are trimmed away. -/
theorem Padded.trim (h : Padded t content) (hTrim : Text.trim t = t) : Text.trim content = t := by
  cases h with
  | blanks hBefore hAfter => rw [Text.trim_enclosed hBefore hAfter, hTrim]

theorem Padded.self (t : Text) : Padded t t := by
  have hPadded : Padded t ([] ++ t ++ []) := .blanks nofun nofun
  rwa [List.nil_append, List.append_nil] at hPadded

/-- What is written for a spelling is the moment itself in the pattern, so the spelling leaves no
trace. -/
theorem written_of_spells (hSpells : Spells date time t) (hPadded : Padded t content)
    (hPattern : pattern ≠ []) (now : Moment) :
    Written now pattern content (Moment.format ⟨date, time, none⟩ pattern) := by
  have hTrim := hPadded.trim (trim_of_spells hSpells)
  have hMoment := ofIso?_of_spells hSpells
  apply Written.denoted hPattern
  · intro hBlank
    rw [← hTrim, hBlank] at hMoment
    cases hMoment
  · rw [hTrim, hMoment]

/-- The markup for a spelling depends on the format, the embedding and the moment. Neither the clock
nor the blanks around the spelling take part in it. -/
theorem prepare_of_spells (hSpells : Spells date time t) (hPadded : Padded t content)
    {parameters : List Parameter} {cssClass : Text}
    (hFormats : Formats settings parameters cssClass pattern) (hPattern : pattern ≠ [])
    (now : Moment) (embedding : EmbeddingType) :
    prepare settings now ⟨embedding, parameters, content⟩ =
      .ok (.text (markup embedding cssClass pattern ⟨date, time, none⟩)) := by
  obtain ⟨variant, hSelects, hSplits⟩ := hFormats
  have hWritten := written_of_spells hSpells hPadded hPattern now
  exact (Prepares.written hSelects hSplits hWritten).eq_prepare.symm

/-- There is nothing to escape in a date. -/
theorem escape_of_spells (h : SpellsDate date t) : Text.escape t = t := by
  rw [Text.escape_eq_self_iff]
  apply h.forall_mem (p := fun c => c ∉ ['&', '<', '>', '"'])
  · intro c hc
    have hPlain : ∀ mark, mark.isDigit = false → c ≠ mark := fun _ => Text.ne_of_isDigit hc
    simp [hPlain]
  · decide
  · decide

theorem ne_nil_of_mem_datePatterns (h : pattern ∈ datePatterns) : pattern ≠ [] := by
  have hAll : ∀ p ∈ datePatterns, p ≠ [] := by decide
  exact hAll pattern h

/-- Preparing with the `dt` command, for every date and all settings: whatever spelling of the date
and of a time on it the content is, what comes of it is the markup of that moment, and the date that
a pattern for dates gives of a year of four digits stands for the content it was written for. -/
theorem prepare_denoted (date : Date) : Denoted date := by
  constructor
  case spelled =>
    intro time t content hSpells hPadded settings parameters cssClass pattern hFormats hPattern
    exact prepare_of_spells hSpells hPadded hFormats hPattern
  case again =>
    intro hYear t content hDate hPadded settings parameters pattern hFormats hPattern now
    have hContent : Spells date .midnight t := .day hDate rfl
    have hWritten : SpellsDate date (Moment.format ⟨date, .midnight, none⟩ pattern) :=
      spellsDate_format (m := ⟨date, .midnight, none⟩) hYear hPattern
    have hFirst := prepare_of_spells hContent hPadded hFormats
      (ne_nil_of_mem_datePatterns hPattern) now .inline
    have hMarkup : markup .inline [] pattern ⟨date, .midnight, none⟩ =
        Moment.format ⟨date, .midnight, none⟩ pattern := escape_of_spells hWritten
    rw [hMarkup] at hFirst
    refine ⟨_, hFirst, ?_⟩
    intro settings parameters cssClass pattern hFormats hPattern now embedding
    exact ⟨_, prepare_of_spells (.day hWritten rfl) (.self _) hFormats hPattern now embedding,
      prepare_of_spells hContent hPadded hFormats hPattern now embedding⟩

/-- The last day of 2024, written as the second day of a week of 2025, at its last second. Digits
beyond the sixth do not round the fraction. -/
example : prepare { dateFormats := ⟨[([], "%d.%m.%Y %T.%f".toList)]⟩ }
    ⟨⟨2024, 1, 1, by decide⟩, .midnight, none⟩ ⟨.inline, [], " 2025W012T235959,9999999 ".toList⟩ =
      .ok (.text "31.12.2024 23:59:59.999999".toList) := by cbv

end CommandMarkup.Handler.DateTime
