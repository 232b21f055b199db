import CommandMarkup.Call.Parser
import CommandMarkup.Handler.Abstract
import CommandMarkup.Handler.DateTime
import CommandMarkup.Proofs.Text.Entity
import CommandMarkup.Proofs.Text.Figures

/-! The two bundled handlers as one family. Either prepares the finished markup, an inert body in a
wrapper that the content has no part in, or reports an error; nothing else can come of it but a
number with more digits than are read. -/
namespace CommandMarkup.Handler

variable {ω : Type}

/-- What stands around a body. The class is as the attribute writes it. -/
inductive Wrapper where
  | bare
  | division
  | divisionOf (cssClass : Text)
  | spanOf (cssClass : Text)

namespace Wrapper

/-- The body with the wrapper around it. -/
def around (body : Text) : Wrapper → Text
  | bare => body
  | division => "<div>".toList ++ body ++ "</div>".toList
  | divisionOf cssClass =>
    "<div class='".toList ++ cssClass ++ "'>".toList ++ body ++ "</div>".toList
  | spanOf cssClass =>
    "<span class='".toList ++ cssClass ++ "'>".toList ++ body ++ "</span>".toList

/-- The class as the attribute writes it, if there is one. -/
def classText : Wrapper → Option Text
  | bare => none
  | division => none
  | divisionOf cssClass => some cssClass
  | spanOf cssClass => some cssClass

/-- The wrapper that a class asks for in an embedding. -/
def ofClass : EmbeddingType → Option Text → Wrapper
  | .block, none => division
  | .block, some cssClass => divisionOf (Text.escapeAttribute cssClass)
  | .inline, none => bare
  | .inline, some cssClass => spanOf (Text.escapeAttribute cssClass)

/-- The class is written escaped into the wrapper, whatever the embedding. -/
theorem classText_ofClass (embedding : EmbeddingType) (cssClass : Option Text) :
    (ofClass embedding cssClass).classText = cssClass.map Text.escapeAttribute := by
  cases embedding <;> cases cssClass <;> rfl

end Wrapper

/-- An element is its two tags with the body between them. -/
theorem element_none (tag body : Text) :
    element tag none body = '<' :: tag ++ ['>'] ++ body ++ ("</".toList ++ tag ++ ['>']) := by
  rw [element]
  generalize "</".toList = opening
  simp only [List.append_assoc, List.cons_append, List.nil_append]

/-- An element with a class has it in single quotation marks, escaped for them. -/
theorem element_some (tag name body : Text) :
    element tag (some name) body =
      ('<' :: tag ++ " class='".toList) ++ Text.escapeAttribute name ++ "'>".toList ++ body ++
        ("</".toList ++ tag ++ ['>']) := by
  rw [element, show "'>".toList = "'".toList ++ ['>'] from rfl]
  generalize "</".toList = opening
  generalize " class='".toList = start
  generalize "'".toList = stop
  simp only [List.append_assoc, List.cons_append, List.nil_append]

/-- The markup of a bundled command is its body inside the wrapper. -/
theorem wrap_eq_around (embedding : EmbeddingType) (cssClass : Option Text) (body : Text) :
    wrap embedding cssClass body = (Wrapper.ofClass embedding cssClass).around body := by
  cases embedding with
  | block =>
      cases cssClass with
      | none => exact element_none "div".toList body
      | some name => exact element_some "div".toList name body
  | inline =>
      cases cssClass with
      | none => rfl
      | some name => exact element_some "span".toList name body

/-- The bundled commands. -/
inductive Bundled where
  | dateTime
  | abstract

namespace Bundled

/-- The handler of the command. -/
def handler (clock : ω → Calendar.Moment) (settings : Settings) : Bundled → Handler ω
  | dateTime => DateTime.handler clock settings
  | abstract => Abstract.handler settings

/-- The class that is configured for the output. Only date formats have one. -/
def cssClass (settings : Settings) (parameters : List Parameter) : Bundled → Option Text
  | dateTime =>
    match DateTime.variantOf parameters with
    | .ok variant => (settings.dateFormat variant).cssClass
    | .error _ => none
  | abstract => none

end Bundled

namespace Abstract

/-- The parameters ask for a length with more digits than are read. -/
def Overlong (parameters : List Parameter) (digits : Text) : Prop :=
  parameters = [.bare digits] ∧ (∀ c ∈ digits, Text.isDigit c = true) ∧ digitLimit < digits.length

theorem isDigit_of_isFigures {t : Text} (h : Text.IsFigures t) :
    ∀ c ∈ t, Text.isDigit c = true := by
  intro c hc
  rw [Text.isDigit, Text.digitValue?_of_isDigit (h c hc)]
  rfl

/-- Every digit of ASCII is decimal. -/
theorem isFigures_of_isDigit {t : Text} (hAscii : ∀ c ∈ t, Text.isAscii c = true)
    (hDigits : ∀ c ∈ t, Text.isDigit c = true) : Text.IsFigures t := by
  have hAll : ∀ n : Fin 128, Text.isDigit (Char.ofNat n) = true →
      (Char.ofNat n).isDigit = true := by decide +kernel
  intro c hc
  exact Text.forall_ascii (p := fun c => Text.isDigit c = true → c.isDigit = true) hAll
    (hAscii c hc) (hDigits c hc)

/-- Reading a length of figures. -/
theorem readLength_figures {t : Text} (hNonempty : t ≠ []) (hFigures : Text.IsFigures t) :
    readLength t =
      if digitLimit < t.length then .error (.tooManyDigits t.length)
      else .ok (Nat.ofDigitChars 10 t 0) := by
  have hValid : ¬ (t.isEmpty || !t.all Text.isDigit) = true := by
    rw [List.all_eq_true.mpr (isDigit_of_isFigures hFigures),
      List.isEmpty_eq_false_iff.mpr hNonempty]
    exact Bool.false_ne_true
  rw [readLength, if_neg hValid, Text.leadingDigits_figures hFigures,
    Text.numberFrom_figures hFigures]

/-- Reading a length from ASCII text is refused, comes to a number, or fails at too many digits. The
last happens to rows of digits only. -/
theorem readLength_cases {t : Text} (hAscii : ∀ c ∈ t, Text.isAscii c = true) :
    (readLength t = .error invalidParameters) ∨ (∃ n, readLength t = .ok n) ∨
      ((∀ c ∈ t, Text.isDigit c = true) ∧ digitLimit < t.length ∧
        readLength t = .error (.tooManyDigits t.length)) := by
  by_cases hInvalid : (t.isEmpty || !t.all Text.isDigit) = true
  · exact .inl (if_pos hInvalid)
  · right
    simp only [Bool.or_eq_true, Bool.not_eq_true', not_or, Bool.not_eq_false, List.all_eq_true,
      List.isEmpty_iff] at hInvalid
    have hRead := readLength_figures hInvalid.1 (isFigures_of_isDigit hAscii hInvalid.2)
    by_cases hLong : digitLimit < t.length
    · rw [if_pos hLong] at hRead
      exact .inr ⟨hInvalid.2, hLong, hRead⟩
    · rw [if_neg hLong] at hRead
      exact .inl ⟨_, hRead⟩

/-- What `abstract` comes to: markup around escaped text, a reported error, or the fault of too many
digits, which no one reports. -/
theorem prepare_cases (settings : Settings) (occurrence : Occurrence)
    (hAscii : ∀ value, occurrence.parameters = [.bare value] →
      ∀ c ∈ value, Text.isAscii c = true) :
    (∃ t, prepare settings occurrence =
      .ok (.text (wrap occurrence.embedding none (Text.escape t)))) ∨
    (prepare settings occurrence = .error invalidParameters) ∨
    ∃ digits, Overlong occurrence.parameters digits ∧
      prepare settings occurrence = .error (.tooManyDigits digits.length) := by
  rw [prepare]
  match hParameters : occurrence.parameters with
  | [] => exact .inl ⟨_, rfl⟩
  | [.bare value] =>
      rw [lengthOf]
      rcases readLength_cases (hAscii value hParameters) with hInvalid | ⟨n, hn⟩ | hLong
      · rw [hInvalid]
        exact .inr (.inl rfl)
      · rw [hn]
        exact .inl ⟨_, rfl⟩
      · obtain ⟨hDigits, hLimit, hFault⟩ := hLong
        rw [hFault]
        exact .inr (.inr ⟨value, ⟨rfl, hDigits, hLimit⟩, rfl⟩)
  | [.assignment name value] => exact .inr (.inl rfl)
  | p :: q :: rest =>
      right
      left
      cases p <;> rfl

/-- A length of too many digits breaks the handler, whatever the content and the settings. -/
theorem prepare_overlong (settings : Settings) {occurrence : Occurrence} {digits : Text}
    (h : Overlong occurrence.parameters digits) (hAscii : ∀ c ∈ digits, Text.isAscii c = true) :
    prepare settings occurrence = .error (.tooManyDigits digits.length) := by
  obtain ⟨hParameters, hDigits, hLong⟩ := h
  have hNonempty : digits ≠ [] := List.ne_nil_of_length_pos (Nat.zero_lt_of_lt hLong)
  have hRead := readLength_figures hNonempty (isFigures_of_isDigit hAscii hDigits)
  rw [if_pos hLong] at hRead
  rw [prepare, hParameters, lengthOf, hRead]

end Abstract

namespace DateTime

theorem eq_of_variantOf_error {parameters : List Parameter} {fault : Fault}
    (h : variantOf parameters = .error fault) : fault = invalidParameters := by
  rw [variantOf.eq_def] at h
  split at h
  · cases h
  · cases h
  · cases h
    rfl

theorem eq_of_write_error {now : Calendar.Moment} {format : DateFormat} {content : Text}
    {fault : Fault} (h : write now format content = .error fault) : fault = invalidValue := by
  rw [write] at h
  split at h
  · cases h
  · split at h
    · cases h
    · next hMoment =>
      cases h
      rw [momentOf] at hMoment
      split at hMoment
      · cases hMoment
      · split at hMoment
        · cases hMoment
        · cases hMoment
          rfl

/-- What `dt` comes to: markup around escaped text, or a reported error. No other fault leaves
it. -/
theorem prepare_cases (settings : Settings) (now : Calendar.Moment) (occurrence : Occurrence) :
    (∃ t, prepare settings now occurrence =
      .ok (.text (wrap occurrence.embedding
        (Bundled.dateTime.cssClass settings occurrence.parameters) (Text.escape t)))) ∨
    ∃ message, prepare settings now occurrence = .error (.reported message) := by
  rw [prepare, Bundled.cssClass]
  cases hVariant : variantOf occurrence.parameters with
  | error fault => exact .inr ⟨_, congrArg Except.error (eq_of_variantOf_error hVariant)⟩
  | ok variant =>
      dsimp only
      cases hWrite : write now (settings.dateFormat variant) occurrence.content with
      | error fault => exact .inr ⟨_, congrArg Except.error (eq_of_write_error hWrite)⟩
      | ok t => exact .inl ⟨t, rfl⟩

end DateTime

namespace Bundled

/-- What preparing with a bundled handler comes to, where the parameters are of ASCII. -/
theorem prepare_cases (kind : Bundled) (clock : ω → Calendar.Moment) (settings : Settings)
    (occurrence : Occurrence) (world : ω)
    (hAscii : ∀ value, occurrence.parameters = [.bare value] →
      ∀ c ∈ value, Text.isAscii c = true) :
    (∃ t, ((kind.handler clock settings).prepare occurrence world).result =
      .ok (.text ((Wrapper.ofClass occurrence.embedding
        (kind.cssClass settings occurrence.parameters)).around (Text.escape t)))) ∨
    (∃ message, ((kind.handler clock settings).prepare occurrence world).result =
      .error (.reported message)) ∨
    ∃ digits, kind = abstract ∧ Abstract.Overlong occurrence.parameters digits ∧
      ((kind.handler clock settings).prepare occurrence world).result =
        .error (.tooManyDigits digits.length) := by
  simp only [← wrap_eq_around]
  cases kind with
  | dateTime =>
      rcases DateTime.prepare_cases settings (clock world) occurrence with hText | hReported
      · exact .inl hText
      · exact .inr (.inl hReported)
  | abstract =>
      rcases Abstract.prepare_cases settings occurrence hAscii with
        hText | hReported | ⟨digits, hOverlong, hFault⟩
      · exact .inl hText
      · exact .inr (.inl ⟨_, hReported⟩)
      · exact .inr (.inr ⟨digits, rfl, hOverlong, hFault⟩)

/-- A bundled handler renders what it prepared as it is. -/
theorem render_eq (kind : Bundled) (clock : ω → Calendar.Moment) (settings : Settings)
    (embedding : EmbeddingType) (payload : Value) (document : Text) (world : ω) :
    (kind.handler clock settings).render embedding payload document world =
      (⟨.ok payload, world⟩, []) := by
  cases kind <;> rfl

end Bundled

end CommandMarkup.Handler
