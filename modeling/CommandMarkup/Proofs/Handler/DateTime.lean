import CommandMarkup.Proofs.Handler.Bundled

/-! The `dt` command from its parameters to its markup. Rules say which parameters select a variant,
how the configured value falls into a class and a pattern, what is written for the content, and what
stands around it; together they leave no occurrence out and no choice.

Main statement: `prepare_dateTime`. -/
namespace CommandMarkup.Handler.DateTime

open Calendar

variable {settings : Settings} {now : Moment} {occurrence : Occurrence}

/-- The variant that parameters select. No parameter selects the default, which is the empty one. -/
inductive Selects : List Parameter → Text → Prop where
  | default : Selects [] []
  | bare (variant : Text) : Selects [.bare variant] variant

/-- A configured value is a class and a pattern with the first bar between them, or a pattern alone
if there is no bar. -/
inductive Splits : (value cssClass pattern : Text) → Prop where
  | plain {pattern : Text} (hBar : '|' ∉ pattern) : Splits pattern [] pattern
  | barred {cssClass : Text} (hBar : '|' ∉ cssClass) (pattern : Text) :
      Splits (cssClass ++ '|' :: pattern) cssClass pattern

/-- The value that is configured for a variant. One that is not configured has the empty value. -/
def configured (settings : Settings) (variant : Text) : Text :=
  (settings.dateFormats.get? variant).getD []

/-- What is written for a content. Without a pattern it is the content itself, whether it denotes a
moment or not. -/
inductive Written (now : Moment) : (pattern content written : Text) → Prop where
  | verbatim (content : Text) : Written now [] content content
  | present {pattern content : Text} (hPattern : pattern ≠ []) (hContent : Text.trim content = []) :
      Written now pattern content (now.format pattern)
  | denoted {pattern content : Text} {moment : Moment} (hPattern : pattern ≠ [])
      (hContent : Text.trim content ≠ [])
      (hMoment : Moment.ofIso? (Text.trim content) = some moment) :
      Written now pattern content (moment.format pattern)

/-- A moment is to be written, and the content denotes none. -/
def Undated (pattern content : Text) : Prop :=
  pattern ≠ [] ∧ Text.trim content ≠ [] ∧ Moment.ofIso? (Text.trim content) = none

/-- What stands around the output. Only a class brings an element with it inline. -/
def wrapperOf : EmbeddingType → (cssClass : Text) → Wrapper
  | .block, [] => .division
  | .block, cssClass => .divisionOf (Text.escapeAttribute cssClass)
  | .inline, [] => .bare
  | .inline, cssClass => .spanOf (Text.escapeAttribute cssClass)

/-- What preparing an occurrence comes to. -/
inductive Prepares (settings : Settings) (now : Moment) (occurrence : Occurrence) :
    Except Fault Value → Prop where
  | unselected (hParameters : ∀ variant, ¬ Selects occurrence.parameters variant) :
      Prepares settings now occurrence (.error (.reported "_INVALID_DT_PARAMETERS_".toList))
  | undated {variant cssClass pattern : Text} (hSelects : Selects occurrence.parameters variant)
      (hSplits : Splits (configured settings variant) cssClass pattern)
      (hUndated : Undated pattern occurrence.content) :
      Prepares settings now occurrence (.error (.reported "_INVALID_DT_VALUE_".toList))
  | written {variant cssClass pattern written : Text}
      (hSelects : Selects occurrence.parameters variant)
      (hSplits : Splits (configured settings variant) cssClass pattern)
      (hWritten : Written now pattern occurrence.content written) :
      Prepares settings now occurrence
        (.ok (.text ((wrapperOf occurrence.embedding cssClass).around (Text.escape written))))

/-- Parameters select a variant unless there are two of them or more, or one with a value
assigned. -/
theorem selects_iff {parameters : List Parameter} :
    (∀ variant, ¬ Selects parameters variant) ↔
      parameters ≠ [] ∧ ∀ value, parameters ≠ [.bare value] := by
  constructor
  · intro h
    constructor
    · rintro rfl
      exact h [] .default
    · rintro value rfl
      exact h value (.bare value)
  · rintro ⟨hEmpty, hBare⟩ variant hSelects
    cases hSelects with
    | default => exact hEmpty rfl
    | bare => exact hBare variant rfl

theorem variantOf_unselected {parameters : List Parameter}
    (h : ∀ variant, ¬ Selects parameters variant) :
    variantOf parameters = .error invalidParameters := by
  obtain ⟨hEmpty, hBare⟩ := selects_iff.mp h
  rw [variantOf.eq_def]
  split
  · exact absurd rfl hEmpty
  · exact absurd rfl (hBare _)
  · rfl

/-- Every value has one class and one pattern. -/
theorem exists_splits (value : Text) : ∃ cssClass pattern, Splits value cssClass pattern := by
  rcases hCut : Text.cut '|' value with ⟨before, after?⟩
  cases after? with
  | none =>
      obtain ⟨rfl, hBar⟩ := Text.cut_eq_none_iff.mp hCut
      exact ⟨[], before, .plain hBar⟩
  | some after =>
      obtain ⟨rfl, hBar⟩ := Text.cut_eq_some_iff.mp hCut
      exact ⟨before, after, .barred hBar after⟩

/-- Cutting a configured value at its first bar gives its class and its pattern. -/
theorem Splits.cut {value cssClass pattern : Text} (h : Splits value cssClass pattern) :
    Text.cut '|' value = (pattern, none) ∧ cssClass = [] ∧ value = pattern ∨
      Text.cut '|' value = (cssClass, some pattern) := by
  cases h with
  | plain hBar => exact .inl ⟨Text.cut_eq_none_iff.mpr ⟨rfl, hBar⟩, rfl, rfl⟩
  | barred hBar => exact .inr (Text.cut_eq_some_iff.mpr ⟨rfl, hBar⟩)

/-- A configured value has one class and one pattern, although a pattern may have bars of its
own. -/
theorem Splits.unique {value cssClass pattern other rest : Text} (h : Splits value cssClass pattern)
    (hOther : Splits value other rest) : other = cssClass ∧ rest = pattern := by
  rcases h.cut with ⟨hCut, rfl, _⟩ | hCut
  · rcases hOther.cut with ⟨hSame, rfl, _⟩ | hSame
    · rw [hCut, Prod.mk.injEq] at hSame
      exact ⟨rfl, hSame.1.symm⟩
    · rw [hCut, Prod.mk.injEq] at hSame
      cases hSame.2
  · rcases hOther.cut with ⟨hSame, _, _⟩ | hSame
    · rw [hCut, Prod.mk.injEq] at hSame
      cases hSame.2
    · rw [hCut, Prod.mk.injEq, Option.some.injEq] at hSame
      exact ⟨hSame.1.symm, hSame.2.symm⟩

/-- The format that is read from a configured value has its class and its pattern, where an empty
one counts as absent. -/
theorem ofText_of_splits {value cssClass pattern : Text} (h : Splits value cssClass pattern) :
    DateFormat.ofText value = ⟨DateFormat.nonempty? cssClass, DateFormat.nonempty? pattern⟩ := by
  rw [DateFormat.ofText]
  rcases h.cut with ⟨hCut, rfl, rfl⟩ | hCut
  · rw [hCut]
    rfl
  · rw [hCut]

theorem nonempty?_of_ne_nil {t : Text} (h : t ≠ []) : DateFormat.nonempty? t = some t :=
  if_neg (mt List.isEmpty_iff.mp h)

theorem momentOf_blank {content : Text} (h : Text.trim content = []) (now : Moment) :
    momentOf now content = .ok now := by
  rw [momentOf, h]

theorem momentOf_text {content : Text} (h : Text.trim content ≠ []) (now : Moment) :
    momentOf now content =
      match Moment.ofIso? (Text.trim content) with
      | some moment => .ok moment
      | none => .error invalidValue := by
  rw [momentOf]
  generalize Text.trim content = t at h
  cases t with
  | nil => exact absurd rfl h
  | cons c t => rfl

/-- What the rules say is written is what the command writes, whatever class goes with the
pattern. -/
theorem write_of_written {pattern content written : Text} (h : Written now pattern content written)
    (cssClass : Option Text) :
    write now ⟨cssClass, DateFormat.nonempty? pattern⟩ content = .ok written := by
  cases h with
  | verbatim => rfl
  | present hPattern hContent =>
      rw [write, nonempty?_of_ne_nil hPattern, momentOf_blank hContent]
  | denoted hPattern hContent hMoment =>
      rw [write, nonempty?_of_ne_nil hPattern, momentOf_text hContent, hMoment]

theorem write_of_undated {pattern content : Text} (h : Undated pattern content) (now : Moment)
    (cssClass : Option Text) :
    write now ⟨cssClass, DateFormat.nonempty? pattern⟩ content = .error invalidValue := by
  obtain ⟨hPattern, hContent, hMoment⟩ := h
  rw [write, nonempty?_of_ne_nil hPattern, momentOf_text hContent, hMoment]

/-- Something is written for every content but one that denotes no moment where one is asked for. -/
theorem exists_written (now : Moment) {pattern content : Text} (h : ¬ Undated pattern content) :
    ∃ written, Written now pattern content written := by
  by_cases hPattern : pattern = []
  · subst hPattern
    exact ⟨content, .verbatim content⟩
  · by_cases hContent : Text.trim content = []
    · exact ⟨_, .present hPattern hContent⟩
    · cases hMoment : Moment.ofIso? (Text.trim content) with
      | none => exact absurd ⟨hPattern, hContent, hMoment⟩ h
      | some moment => exact ⟨_, .denoted hPattern hContent hMoment⟩

/-- The wrapper by the rules is the one that the command puts around its output. An empty class asks
for no attribute. -/
theorem wrap_eq_wrapperOf (embedding : EmbeddingType) (cssClass body : Text) :
    wrap embedding (DateFormat.nonempty? cssClass) body =
      (wrapperOf embedding cssClass).around body := by
  rw [wrap_eq_around]
  cases embedding with
  | block => cases cssClass <;> rfl
  | inline => cases cssClass <;> rfl

theorem prepare_unselected (settings : Settings) (now : Moment)
    (h : ∀ variant, ¬ Selects occurrence.parameters variant) :
    prepare settings now occurrence = .error invalidParameters := by
  rw [prepare, variantOf_unselected h]

/-- Once a variant is selected, the command comes to what is written in its format, escaped and
wrapped; an error of writing is passed on as it is. -/
theorem prepare_selected {variant cssClass pattern : Text} (now : Moment)
    (hSelects : Selects occurrence.parameters variant)
    (hSplits : Splits (configured settings variant) cssClass pattern) :
    prepare settings now occurrence =
      (write now ⟨DateFormat.nonempty? cssClass, DateFormat.nonempty? pattern⟩
        occurrence.content).map fun written =>
          .text ((wrapperOf occurrence.embedding cssClass).around (Text.escape written)) := by
  obtain ⟨embedding, parameters, content⟩ := occurrence
  have hFormat : ∀ chosen : Option Text, chosen.getD [] = variant →
      settings.dateFormat chosen =
        ⟨DateFormat.nonempty? cssClass, DateFormat.nonempty? pattern⟩ := by
    rintro chosen rfl
    exact ofText_of_splits hSplits
  have hVariant : ∃ chosen : Option Text, variantOf parameters = .ok chosen ∧
      chosen.getD [] = variant := by
    cases hSelects with
    | default => exact ⟨none, rfl, rfl⟩
    | bare => exact ⟨some variant, rfl, rfl⟩
  obtain ⟨chosen, hChosen, hGetD⟩ := hVariant
  simp only [prepare, hChosen, hFormat chosen hGetD, ← wrap_eq_wrapperOf]
  cases write now ⟨DateFormat.nonempty? cssClass, DateFormat.nonempty? pattern⟩ content <;> rfl

/-- Each rule gives what the command comes to. -/
theorem Prepares.eq_prepare {result : Except Fault Value}
    (h : Prepares settings now occurrence result) :
    result = prepare settings now occurrence := by
  cases h with
  | unselected hParameters => exact (prepare_unselected settings now hParameters).symm
  | undated hSelects hSplits hUndated =>
      rw [prepare_selected now hSelects hSplits, write_of_undated hUndated]
      rfl
  | written hSelects hSplits hWritten =>
      rw [prepare_selected now hSelects hSplits, write_of_written hWritten]
      rfl

/-- The rules leave no occurrence out. -/
theorem exists_prepares (settings : Settings) (now : Moment) (occurrence : Occurrence) :
    ∃ result, Prepares settings now occurrence result := by
  by_cases hParameters : ∀ variant, ¬ Selects occurrence.parameters variant
  · exact ⟨_, .unselected hParameters⟩
  · obtain ⟨variant, hSelects⟩ := Classical.not_forall_not.mp hParameters
    obtain ⟨cssClass, pattern, hSplits⟩ := exists_splits (configured settings variant)
    by_cases hUndated : Undated pattern occurrence.content
    · exact ⟨_, .undated hSelects hSplits hUndated⟩
    · obtain ⟨written, hWritten⟩ := exists_written now hUndated
      exact ⟨_, .written hSelects hSplits hWritten⟩

/-- The rules say what the command comes to and leave no choice. -/
theorem prepare_eq_iff (settings : Settings) (now : Moment) (occurrence : Occurrence)
    (result : Except Fault Value) :
    prepare settings now occurrence = result ↔ Prepares settings now occurrence result := by
  constructor
  · rintro rfl
    obtain ⟨result, hResult⟩ := exists_prepares settings now occurrence
    rw [← hResult.eq_prepare]
    exact hResult
  · intro h
    exact h.eq_prepare.symm

/-- Where a variant is selected, the content is refused or something is written. -/
theorem prepare_undated_iff {variant cssClass pattern : Text} (now : Moment)
    (hSelects : Selects occurrence.parameters variant)
    (hSplits : Splits (configured settings variant) cssClass pattern) :
    prepare settings now occurrence = .error invalidValue ↔ Undated pattern occurrence.content := by
  rw [prepare_selected now hSelects hSplits]
  by_cases hUndated : Undated pattern occurrence.content
  · rw [write_of_undated hUndated]
    exact iff_of_true rfl hUndated
  · obtain ⟨written, hWritten⟩ := exists_written now hUndated
    rw [write_of_written hWritten]
    exact iff_of_false nofun hUndated

/-- What is not refused is put out, between the markup for the class. -/
theorem prepare_written {variant cssClass pattern : Text} (now : Moment)
    (hSelects : Selects occurrence.parameters variant)
    (hSplits : Splits (configured settings variant) cssClass pattern)
    (hDated : ¬ Undated pattern occurrence.content) :
    ∃ written, Written now pattern occurrence.content written ∧
      prepare settings now occurrence =
        .ok (.text ((wrapperOf occurrence.embedding cssClass).around (Text.escape written))) := by
  obtain ⟨written, hWritten⟩ := exists_written now hDated
  exact ⟨written, hWritten, (Prepares.written hSelects hSplits hWritten).eq_prepare.symm⟩

/-- The parameters are refused if and only if they select nothing. No other error looks like that
one. -/
theorem prepare_unselected_iff (settings : Settings) (now : Moment) (occurrence : Occurrence) :
    prepare settings now occurrence = .error invalidParameters ↔
      ∀ variant, ¬ Selects occurrence.parameters variant := by
  constructor
  · intro hRefused variant hSelects
    obtain ⟨cssClass, pattern, hSplits⟩ := exists_splits (configured settings variant)
    rw [prepare_selected now hSelects hSplits] at hRefused
    by_cases hUndated : Undated pattern occurrence.content
    · rw [write_of_undated hUndated] at hRefused
      exact absurd (Except.error.inj hRefused) (by decide)
    · obtain ⟨written, hWritten⟩ := exists_written now hUndated
      rw [write_of_written hWritten] at hRefused
      cases hRefused
  · exact prepare_unselected settings now

/-- Preparing with the `dt` command, for all settings, occurrences and clocks: the rules say what it
comes to. Parameters that select nothing are refused whatever else there is. Otherwise the
configured value falls into a class and a pattern in one way; the content is refused exactly when a
moment is asked for and it denotes none, and in all other cases something is written for it and put
out. The world is as it was. -/
theorem prepare_dateTime {ω : Type} (clock : ω → Moment) (settings : Settings)
    (occurrence : Occurrence) (world : ω) :
    ∃ result, (handler clock settings).prepare occurrence world = ⟨result, world⟩ ∧
      (∀ other, other = result ↔ Prepares settings (clock world) occurrence other) ∧
      (result = .error (.reported "_INVALID_DT_PARAMETERS_".toList) ↔
        occurrence.parameters ≠ [] ∧ ∀ value, occurrence.parameters ≠ [.bare value]) ∧
      ∀ variant, Selects occurrence.parameters variant →
        ∃ cssClass pattern, Splits (configured settings variant) cssClass pattern ∧
          (∀ other rest, Splits (configured settings variant) other rest →
            other = cssClass ∧ rest = pattern) ∧
          (result = .error (.reported "_INVALID_DT_VALUE_".toList) ↔
            Undated pattern occurrence.content) ∧
          (¬ Undated pattern occurrence.content → ∃ written,
            Written (clock world) pattern occurrence.content written ∧
            result = .ok (.text
              ((wrapperOf occurrence.embedding cssClass).around (Text.escape written)))) := by
  refine ⟨prepare settings (clock world) occurrence, rfl, ?_, ?_, ?_⟩
  · intro other
    rw [eq_comm]
    exact prepare_eq_iff settings (clock world) occurrence other
  · rw [← selects_iff]
    exact prepare_unselected_iff settings (clock world) occurrence
  · intro variant hSelects
    obtain ⟨cssClass, pattern, hSplits⟩ := exists_splits (configured settings variant)
    exact ⟨cssClass, pattern, hSplits, fun _ _ => hSplits.unique,
      prepare_undated_iff (clock world) hSelects hSplits,
      prepare_written (clock world) hSelects hSplits⟩

/-- Where a class has no pattern after it, the content is put out as it is, blanks and all. -/
example (now : Moment) : prepare { dateFormats := ⟨[([], "|%Y".toList), (['x'], "c|".toList)]⟩ } now
    ⟨.inline, [.bare ['x']], " a&b ".toList⟩ =
      .ok (.text "<span class='c'> a&amp;b </span>".toList) := rfl

end CommandMarkup.Handler.DateTime
