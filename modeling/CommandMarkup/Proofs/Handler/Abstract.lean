import CommandMarkup.Proofs.Handler.Bundled
import CommandMarkup.Proofs.Prepared.Bundled
import CommandMarkup.Proofs.Text.Escaping
import CommandMarkup.Proofs.Text.Figures
import CommandMarkup.Proofs.Text.Trimming

/-! The `abstract` command from its parameters to its markup. Which length the parameters ask for,
and what is left of a text by it, are said apart; the length counts characters of the trimmed
content, before anything is escaped.

Main statement: `prepare_abstract`. -/
namespace CommandMarkup.Handler.Abstract

variable {settings : Settings} {parameters : List Parameter} {length : Nat}

/-- The parameters ask for a length. No parameter asks for none, which zero stands for. -/
inductive Asks : List Parameter → Nat → Prop where
  | whole : Asks [] 0
  | figures {digits : Text} (hNonempty : digits ≠ []) (hFigures : Text.IsFigures digits) :
      Asks [.bare digits] (Nat.ofDigitChars 10 digits 0)

/-- What is shown of a text, and how much of that is kept from the text. -/
inductive Abridges (ellipsis t : Text) (length : Nat) : (kept shown : Text) → Prop where
  | whole (h : length = 0 ∨ t.length ≤ length) : Abridges ellipsis t length t t
  | cut (hPositive : 0 < length) (hShorter : length < t.length) :
      Abridges ellipsis t length (t.take length) (t.take length ++ ellipsis)

/-- The body of the markup for a text. -/
structure Body (ellipsis t : Text) (length : Nat) (kept body : Text) : Prop where
  abridges : Abridges ellipsis t length kept (Text.unescape body)
  escaped : Text.escape (Text.unescape body) = body
  inert : Text.Inert body
  sized : Text.unescape body = t ∨
    (Text.unescape body).length = length + ellipsis.length ∧
      (Text.unescape body).take length = t.take length

/-- What is shown is the text itself, or it has the length that was asked for and the ellipsis after
it. -/
theorem Abridges.sized {ellipsis t kept shown : Text} (h : Abridges ellipsis t length kept shown) :
    shown = t ∨ shown.length = length + ellipsis.length ∧ shown.take length = t.take length := by
  cases h with
  | whole => exact .inl rfl
  | cut hPositive hShorter =>
      right
      have hLength : (t.take length).length = length := List.length_take_of_le hShorter.le
      constructor
      · rw [List.length_append, hLength]
      · exact List.take_left' hLength

/-- Escaping loses nothing of what is shown: the body is inert, and it is read back as what was to
be shown. -/
theorem Abridges.body {ellipsis t kept shown : Text}
    (h : Abridges ellipsis t length kept shown) :
    Body ellipsis t length kept (Text.escape shown) := by
  have hShown := Text.unescape_escape shown
  constructor
  case abridges => exact hShown.symm ▸ h
  case escaped => rw [hShown]
  case inert => exact Text.inert_escape shown
  case sized => exact hShown.symm ▸ h.sized

/-- A larger length keeps at least as much. -/
theorem Abridges.kept_le {ellipsis t kept shown more other : Text} {longer : Nat}
    (h : Abridges ellipsis t length kept shown) (hLonger : Abridges ellipsis t longer more other)
    (hPositive : 0 < length) (hLe : length ≤ longer) : kept <+: more ∧ more <+: t := by
  cases hLonger with
  | whole _ =>
      cases h with
      | whole _ => exact ⟨List.prefix_refl _, List.prefix_refl _⟩
      | cut _ _ => exact ⟨List.take_prefix _ _, List.prefix_refl _⟩
  | cut _ hShorter =>
      cases h with
      | whole hWhole => omega
      | cut _ _ =>
          refine ⟨?_, List.take_prefix _ _⟩
          rw [← Nat.min_eq_left hLe, ← List.take_take]
          exact List.take_prefix _ _

theorem shorten_of_cut {ellipsis t : Text} (hPositive : 0 < length) (hShorter : length < t.length) :
    shorten length ellipsis t = t.take length ++ ellipsis :=
  if_pos ⟨Nat.pos_iff_ne_zero.mp hPositive, hShorter⟩

theorem shorten_of_whole {ellipsis t : Text} (h : length = 0 ∨ t.length ≤ length) :
    shorten length ellipsis t = t := by
  apply if_neg
  omega

theorem exists_abridges (length : Nat) (ellipsis t : Text) :
    ∃ kept, Abridges ellipsis t length kept (shorten length ellipsis t) := by
  by_cases hCut : 0 < length ∧ length < t.length
  · rw [shorten_of_cut hCut.1 hCut.2]
    exact ⟨_, .cut hCut.1 hCut.2⟩
  · have hWhole : length = 0 ∨ t.length ≤ length := by omega
    rw [shorten_of_whole hWhole]
    exact ⟨_, .whole hWhole⟩

/-- What has been shortened is left as it is by the same length. The cut may come after a blank, but
then the ellipsis keeps it from the end, and something of the ellipsis is always left to cut off. -/
theorem shorten_again {ellipsis : Text} (hEllipsis : ellipsis ≠ [])
    (hEnd : ∀ c ∈ ellipsis.getLast?, Text.isBlank c = false) (length : Nat) (content : Text) :
    shorten length ellipsis (Text.trim (shorten length ellipsis (Text.trim content))) =
      shorten length ellipsis (Text.trim content) := by
  have hHead : ∀ c ∈ (Text.trim content).head?, Text.isBlank c = false := Text.head?_trim
  have hTrimmed : Text.trim (Text.trim content) = Text.trim content := Text.trim_trim content
  generalize Text.trim content = t at hHead hTrimmed
  by_cases hCut : 0 < length ∧ length < t.length
  · obtain ⟨hPositive, hShorter⟩ := hCut
    have hLength : (t.take length).length = length := List.length_take_of_le hShorter.le
    have hShown : Text.trim (t.take length ++ ellipsis) = t.take length ++ ellipsis := by
      apply Text.trim_of_ends
      · cases t with
        | nil => simp at hShorter
        | cons c t =>
            obtain ⟨n, rfl⟩ := Nat.exists_eq_succ_of_ne_zero hPositive.ne'
            exact hHead
      · rw [List.getLast?_append_of_ne_nil _ hEllipsis]
        exact hEnd
    have hLonger : length < (t.take length ++ ellipsis).length := by
      have := List.length_pos_iff.mpr hEllipsis
      rw [List.length_append, hLength]
      omega
    rw [shorten_of_cut hPositive hShorter, hShown, shorten_of_cut hPositive hLonger,
      List.take_left' hLength]
  · have hWhole : length = 0 ∨ t.length ≤ length := by omega
    rw [shorten_of_whole hWhole, hTrimmed, shorten_of_whole hWhole]

/-- Of ASCII texts nothing but rows of digits is read as a length. The empty text is none either. -/
theorem readLength_other {digits : Text} (hAscii : ∀ c ∈ digits, Text.isAscii c = true)
    (h : ¬ (digits ≠ [] ∧ Text.IsFigures digits)) :
    readLength digits = .error invalidParameters := by
  apply if_pos
  by_contra hValid
  simp only [Bool.or_eq_true, Bool.not_eq_true', not_or, Bool.not_eq_false, List.all_eq_true,
    List.isEmpty_iff] at hValid
  exact h ⟨hValid.1, isFigures_of_isDigit hAscii hValid.2⟩

/-- No length among the parameters has more digits than are read. -/
def Short (parameters : List Parameter) : Prop :=
  ∀ digits, parameters = [.bare digits] → Text.IsFigures digits → digits.length ≤ digitLimit

/-- A length that is asked for is the one that is read, unless it has too many digits to be read at
all. -/
theorem lengthOf_of_asks (h : Asks parameters length) (hShort : Short parameters) :
    lengthOf parameters = .ok length := by
  cases h with
  | whole => rfl
  | figures hNonempty hFigures =>
      have hLimit := Nat.not_lt.mpr (hShort _ rfl hFigures)
      rw [lengthOf, readLength_figures hNonempty hFigures, if_neg hLimit]

/-- Parameters that ask for no length are refused. Digits of other scripts are left out of account,
since no call has them. -/
theorem lengthOf_of_not_asks
    (hAscii : ∀ value, .bare value ∈ parameters → ∀ c ∈ value, Text.isAscii c = true)
    (h : ∀ length, ¬ Asks parameters length) : lengthOf parameters = .error invalidParameters := by
  match parameters with
  | [] => exact absurd .whole (h 0)
  | [.bare value] =>
      apply readLength_other (hAscii value List.mem_cons_self)
      intro hValue
      exact h _ (.figures hValue.1 hValue.2)
  | [.assignment name value] => rfl
  | p :: q :: rest => cases p <;> rfl

/-- What is put out is the trimmed content, shortened and then escaped. A settings field takes part
in it only as the ellipsis, and the embedding only as the wrapper. -/
theorem prepare_of_asks (settings : Settings) (h : Asks parameters length)
    (hShort : Short parameters) (embedding : EmbeddingType) (content : Text) :
    prepare settings ⟨embedding, parameters, content⟩ =
      .ok (.text ((Wrapper.ofClass embedding none).around
        (Text.escape (shorten length settings.ellipsis (Text.trim content))))) := by
  rw [prepare, lengthOf_of_asks h hShort, ← wrap_eq_around]

/-- Zeros before a length do not change it. -/
theorem Asks.zeros {digits : Text} (h : Asks [.bare digits] length) (count : Nat) :
    Asks [.bare (List.replicate count '0' ++ digits)] length := by
  cases h with
  | figures hNonempty hFigures =>
      have hValue : Nat.ofDigitChars 10 (List.replicate count '0' ++ digits) 0 =
          Nat.ofDigitChars 10 digits 0 := by
        rw [Nat.ofDigitChars_append, Nat.ofDigitChars_replicate_zero, Nat.mul_zero]
      rw [← hValue]
      exact .figures (List.append_ne_nil_of_right_ne_nil _ hNonempty)
        ((Text.isFigures_replicate count).append hFigures)

/-- The markup for the occurrence has a body that keeps just that of the content. -/
def Shows (settings : Settings) (occurrence : Occurrence) (length : Nat) (kept : Text) : Prop :=
  ∃ body, Body settings.ellipsis (Text.trim occurrence.content) length kept body ∧
    prepare settings occurrence =
      .ok (.text ((Wrapper.ofClass occurrence.embedding none).around body))

/-- How contents are shortened by the parameters. -/
structure Shortens (settings : Settings) (parameters : List Parameter) : Prop where
  refused : (∀ length, ¬ Asks parameters length) → ∀ embedding content,
    prepare settings ⟨embedding, parameters, content⟩ =
      .error (.reported "_INVALID_ABSTRACT_PARAMETERS_".toList)
  shown : ∀ length, Asks parameters length → ∀ embedding content, ∃ kept,
    Shows settings ⟨embedding, parameters, content⟩ length kept
  longer : ∀ others length longer, 0 < length → length ≤ longer → ∀ embedding content kept more,
    Shows settings ⟨embedding, parameters, content⟩ length kept →
      Shows settings ⟨embedding, others, content⟩ longer more →
        kept <+: more ∧ more <+: Text.trim content
  blanks : ∀ before after : Text, (∀ c ∈ before, Text.isBlank c = true) →
    (∀ c ∈ after, Text.isBlank c = true) → ∀ embedding content,
      prepare settings ⟨embedding, parameters, before ++ content ++ after⟩ =
        prepare settings ⟨embedding, parameters, content⟩
  zeros : ∀ digits length, parameters = [.bare digits] → Asks parameters length →
    ∀ count, count + digits.length ≤ digitLimit → ∀ embedding content,
      prepare settings ⟨embedding, [.bare (List.replicate count '0' ++ digits)], content⟩ =
        prepare settings ⟨embedding, parameters, content⟩
  again : settings.ellipsis ≠ [] → (∀ c ∈ settings.ellipsis.getLast?, Text.isBlank c = false) →
    ∀ content output, prepare settings ⟨.inline, parameters, content⟩ = .ok (.text output) →
      prepare settings ⟨.inline, parameters, Text.unescape output⟩ = .ok (.text output)

/-- Preparing with the `abstract` command, for all settings and for the parameters of every call.
Parameters that ask for no length are refused. Otherwise the trimmed content is put out escaped,
whole or cut to the length with the ellipsis after it. Neither blanks around the content nor zeros
before the length matter, a larger length keeps no less, and what came of an inline command is
shortened no further. -/
theorem prepare_abstract {callText : Text} {call : Call} (h : Call.parse callText = .ok call)
    (hShort : Short call.parameters) (settings : Settings) : Shortens settings call.parameters := by
  have hAscii : ∀ value, .bare value ∈ call.parameters → ∀ c ∈ value, Text.isAscii c = true :=
    fun value hValue => Registry.isAscii_of_parse h hValue
  constructor
  case refused =>
    intro hAsks embedding content
    rw [prepare, lengthOf_of_not_asks hAscii hAsks]
    rfl
  case shown =>
    intro length hAsks embedding content
    obtain ⟨kept, hAbridges⟩ := exists_abridges length settings.ellipsis (Text.trim content)
    exact ⟨kept, _, hAbridges.body, prepare_of_asks settings hAsks hShort embedding content⟩
  case longer =>
    intro others length longer hPositive hLe embedding content kept more hShows hMore
    obtain ⟨_, hBody, _⟩ := hShows
    obtain ⟨_, hOther, _⟩ := hMore
    exact hBody.abridges.kept_le hOther.abridges hPositive hLe
  case blanks =>
    intro before after hBefore hAfter embedding content
    rw [prepare, prepare, Text.trim_enclosed hBefore hAfter]
  case zeros =>
    intro digits length hParameters hAsks count hCount embedding content
    have hLong : Short [.bare (List.replicate count '0' ++ digits)] := by
      rintro _ ⟨⟩ _
      rw [List.length_append, List.length_replicate]
      exact hCount
    rw [prepare_of_asks settings hAsks hShort]
    rw [hParameters] at hAsks
    rw [prepare_of_asks settings (hAsks.zeros count) hLong]
  case again =>
    intro hEllipsis hEnd content output hOutput
    rw [prepare] at hOutput ⊢
    cases hLength : lengthOf call.parameters with
    | error fault =>
        rw [hLength] at hOutput
        cases hOutput
    | ok length =>
        rw [hLength] at hOutput
        obtain rfl := Value.text.inj (Except.ok.inj hOutput)
        simp only [wrap, Text.unescape_escape, shorten_again hEllipsis hEnd]

/-- The cut falls after a blank, which the ellipsis then keeps from being trimmed. -/
theorem prepare_abstract_blank :
    Call.parse "abstract?04".toList = .ok ⟨"abstract".toList, [.bare "04".toList]⟩ ∧
      Short [.bare "04".toList] ∧ Asks [.bare "04".toList] 4 ∧
      prepare {} ⟨.inline, [.bare "04".toList], " &b  <c ".toList⟩ =
        .ok (.text "&amp;b  …".toList) ∧
      prepare {} ⟨.inline, [.bare "04".toList], Text.unescape "&amp;b  …".toList⟩ =
        .ok (.text "&amp;b  …".toList) := by
  have hParse : Call.parse "abstract?04".toList =
      .ok ⟨"abstract".toList, [.bare "04".toList]⟩ := rfl
  have hShort : Short [.bare "04".toList] := by
    rintro _ ⟨⟩ _
    decide
  have hAsks : Asks [.bare "04".toList] 4 := .figures (by decide) (by decide)
  have hOutput : prepare {} ⟨.inline, [.bare "04".toList], " &b  <c ".toList⟩ =
      .ok (.text "&amp;b  …".toList) := rfl
  have hEnd : ∀ c ∈ ({} : Settings).ellipsis.getLast?, Text.isBlank c = false := by
    rintro _ ⟨⟩
    rfl
  have hAgain := (prepare_abstract hParse hShort {}).again (by decide) hEnd _ _ hOutput
  exact ⟨hParse, hShort, hAsks, hOutput, hAgain⟩

end CommandMarkup.Handler.Abstract
