import CommandMarkup.Document
import CommandMarkup.Proofs.Embedding.Lexing
import CommandMarkup.Proofs.Embedding.Segmentation
import CommandMarkup.Proofs.Prepared.Bundled

/-! What a bad command comes to where the bundled commands are the only ones. It is recognized all
the same, put out, and the document goes on after it: a call that cannot be read, a name without
a handler and an error that a handler reports all become text. One thing does not, a length for
`abstract` with more digits than are read. -/
namespace CommandMarkup

namespace Registry

open Handler

variable {ω : Type} {clock : ω → Calendar.Moment} {r : Registry ω} {s : State ω} {e : Embedding}
  {command : Text}

/-- The command is for the bundled `abstract`, and the length that it asks for has more digits than
are read. -/
def Overlong (r : Registry ω) (e : Embedding) (command : Text) (s : State ω) (digits : Text) :
    Prop :=
  ∃ callText content call, e.split? command = some (callText, content) ∧
    Call.parse callText = .ok call ∧ preparer r call.name s = some (Abstract.handler r.settings) ∧
    Abstract.Overlong call.parameters digits

/-- The fault of a number that is too long is passed on. -/
theorem recognize_overlong {digits : Text} (h : r.Overlong e command s digits) :
    (r.recognize e command s).result = .error (.tooManyDigits digits.length) := by
  obtain ⟨callText, content, call, hSplit, hParse, hPreparer, hOverlong⟩ := h
  cases recognition hSplit s with
  | rejected rejection hRejected _ =>
      rw [hRejected] at hParse
      cases hParse
  | broken other fault hOther hResolve _ =>
      rw [hOther] at hParse
      cases hParse
      rw [preparer, hResolve] at hPreparer
      cases hPreparer
  | absent other hOther hResolve _ =>
      rw [hOther] at hParse
      cases hParse
      rw [preparer, hResolve] at hPreparer
      cases hPreparer
  | found other handle hOther hFound hOutcome =>
      rw [hOther] at hParse
      cases hParse
      rw [preparer_found hFound, Option.some.injEq] at hPreparer
      obtain ⟨hPrepared, _⟩ := prepares_boundHandler handle ⟨e.type, call.parameters, content⟩
        (r.resolve call.name s).state
      have hAscii : ∀ c ∈ digits, Text.isAscii c = true := by
        refine isAscii_of_parse hOther ?_
        rw [hOverlong.1]
        exact List.mem_cons_self
      have hFault : Abstract.prepare r.settings ⟨e.type, call.parameters, content⟩ =
          .error (.tooManyDigits digits.length) :=
        Abstract.prepare_overlong r.settings hOverlong hAscii
      rw [hPreparer] at hPrepared
      rw [hOutcome]
      generalize prepare handle ⟨e.type, call.parameters, content⟩ (r.resolve call.name s).state =
        prepared at hPrepared
      obtain ⟨result, last⟩ := prepared
      obtain rfl := hPrepared.trans hFault
      rfl

theorem writes_abstract {value : Text} (hValue : Call.isValue value = true) :
    (⟨"abstract".toList, [.bare value]⟩ : Call).Writes ("abstract?".toList ++ value) :=
  .withParameters (show Call.isName "abstract".toList = true from rfl) (.one (.bare hValue))

/-- Such a command can be written in any embedding, with any content. -/
theorem overlong_abstract (clock : ω → Calendar.Moment) (host : Host ω) (e : Embedding)
    {digits : Text} (hValue : Call.isValue digits = true)
    (hDigits : ∀ c ∈ digits, Text.isDigit c = true) (hLong : Abstract.digitLimit < digits.length)
    (content : Text) :
    Overlong { environment := .bundled clock } e (e.enclose ("abstract?".toList ++ digits) content)
      (start host) digits := by
  have hWrites := writes_abstract hValue
  have hSplit := Embedding.split?_of_mem_callPattern (e := e)
    (Embedding.mem_callPattern_of_writes hWrites) content
  have hParse : Call.parse ("abstract?".toList ++ digits) =
      .ok ⟨"abstract".toList, [.bare digits]⟩ :=
    Call.parse_eq_ok_iff.mpr ⟨_, hWrites, rfl⟩
  exact ⟨_, content, _, hSplit, hParse, rfl, rfl, hDigits, hLong⟩

/-- The command is recognized, and its output is put out whole whenever that is. -/
def Recovers (clock : ω → Calendar.Moment) (r : Registry ω) (e : Embedding) (command : Text)
    (s : State ω) : Prop :=
  ∃ p output, (r.recognize e command s).result = .ok p ∧
    PutsOut (IsBundled clock r.settings) r p output (r.recognize e command s).state

/-- A command that can be split is recovered from, unless it calls `abstract` with too many
digits. -/
theorem recovers_of_split? (hBundled : BundledOnly clock r)
    (hHolds : Holds (IsBundled clock r.settings) s) {callText content : Text}
    (hSplit : e.split? command = some (callText, content))
    (hShort : ∀ digits, ¬ r.Overlong e command s digits) : Recovers clock r e command s := by
  cases recognition_bundled hBundled.loads hHolds hSplit with
  | literal t hResult => exact ⟨_, _, hResult, putsOut_literal _ _ _ _ _⟩
  | markup call kind t hParse _ hResult =>
      exact ⟨_, _, hResult, putsOut_recognized hBundled.loads hHolds hParse hResult⟩
  | overlong call digits hParse hPreparer hOverlong _ =>
      exact absurd ⟨callText, content, call, hSplit, hParse, hPreparer, hOverlong⟩ (hShort digits)
  | broken call fault _ hResolve _ =>
      obtain ⟨entry, hEntry⟩ := hBundled.resolve_total call.name s
      rw [hEntry] at hResolve
      cases hResolve

/-- Segments are put out one after another where each command recovers in any state it can meet. -/
theorem processSegments_total (hBundled : BundledOnly clock r) {found : List Embedding.Segment}
    (hFound : ∀ segment ∈ found, ∀ s, Holds (IsBundled clock r.settings) s →
      Recovers clock r segment.embedding segment.command s)
    (hHolds : Holds (IsBundled clock r.settings) s) (document : Text) :
    ∃ prepared, (r.processSegments found document s).outcome.result = .ok prepared ∧
      prepared.length = found.length := by
  induction found generalizing s document with
  | nil => exact ⟨[], rfl, rfl⟩
  | cons segment rest ih =>
      obtain ⟨p, output, hResult, hOutput⟩ := hFound segment List.mem_cons_self s hHolds
      obtain ⟨final, hFinal⟩ := hOutput [] nofun segment.embedding (document ++ segment.before)
      have hRecognized : Holds (IsBundled clock r.settings)
          (r.recognize segment.embedding segment.command s).state :=
        holds_action hBundled.loads (a := .recognize segment.embedding segment.command)
          ⟨nofun, nofun⟩ hHolds
      have hRendered := holds_action hBundled.loads
        (a := .renderPrepared segment.embedding r.settings.outputMode p
          (document ++ segment.before)) ⟨nofun, nofun⟩ hRecognized
      rw [run] at hFinal
      rw [Action.after, hFinal] at hRendered
      obtain ⟨prepared, hPrepared, hLength⟩ :=
        ih (fun other hOther => hFound other (List.mem_cons_of_mem _ hOther)) hRendered
          (document ++ segment.before ++ output)
      refine ⟨p :: prepared, ?_, congrArg Nat.succ hLength⟩
      rw [processSegments]
      generalize r.recognize segment.embedding segment.command s = recognized at *
      obtain ⟨result, after⟩ := recognized
      obtain rfl : result = .ok p := hResult
      dsimp only at hFinal ⊢
      rw [hFinal]
      dsimp only [Outcome.ok] at hPrepared ⊢
      rw [Outcome.andThen, hPrepared]

/-- A text in which no length is too long is processed to its end, whatever else is wrong with the
commands in it, and every command is prepared. -/
theorem process_total (hBundled : BundledOnly clock r)
    (hHolds : Holds (IsBundled clock r.settings) s) {es : List Embedding} {t : Text}
    (hShort : ∀ segment ∈ (Embedding.segments es t).1, ∀ callText content call digits,
      segment.embedding.split? segment.command = some (callText, content) →
      Call.parse callText = .ok call → ¬ Abstract.Overlong call.parameters digits)
    (document : Text) :
    ∃ prepared, (r.process es t document s).outcome.result = .ok prepared ∧
      prepared.length = (Embedding.segments es t).1.length := by
  have hRecovers : ∀ segment ∈ (Embedding.segments es t).1, ∀ s,
      Holds (IsBundled clock r.settings) s →
      Recovers clock r segment.embedding segment.command s := by
    intro segment hMem s hHolds
    obtain ⟨callText, content, hSplit⟩ := Embedding.split?_of_mem_segments hMem
    refine recovers_of_split? hBundled hHolds hSplit ?_
    rintro digits ⟨callText, content, call, hSplit, hParse, _, hOverlong⟩
    exact hShort segment hMem callText content call digits hSplit hParse hOverlong
  obtain ⟨prepared, hPrepared, hLength⟩ := processSegments_total hBundled hRecovers hHolds document
  refine ⟨prepared, ?_, hLength⟩
  rw [process, hPrepared]
  exact hPrepared

/-- A command fails for nothing but a length that is too long, and for that it does; a document in
which there is none is processed to its end. -/
structure Recovering (clock : ω → Calendar.Moment) (r : Registry ω) (s : State ω) : Prop where
  recovers : ∀ (e : Embedding) (t : Text), ∀ m ∈ e.findAll t,
    (∀ digits, ¬ r.Overlong e m.command s digits) → Recovers clock r e m.command s
  fails : ∀ (e : Embedding) (command digits : Text), r.Overlong e command s digits →
    (r.recognize e command s).result = .error (.tooManyDigits digits.length)
  processes : ∀ (es : List Embedding) (t document : Text),
    (∀ segment ∈ (Embedding.segments es t).1, ∀ callText content call digits,
      segment.embedding.split? segment.command = some (callText, content) →
      Call.parse callText = .ok call → ¬ Abstract.Overlong call.parameters digits) →
    ∃ prepared, (r.process es t document s).outcome.result = .ok prepared ∧
      prepared.length = (Embedding.segments es t).1.length

/-- A registry that has the bundled commands only recovers from bad commands, whatever was done with
it before. -/
theorem run_recovers (hBundled : BundledOnly clock r) (host : Host ω) {as : List (Action ω)}
    (hUses : ∀ a ∈ as, a.Uses (IsBundled clock r.settings) r) :
    Recovering clock r (run r as (start host)) := by
  have hHolds : Holds (IsBundled clock r.settings) (run r as (start host)) :=
    holds_run ⟨hBundled.loads, hUses⟩ (holds_start _ host)
  refine ⟨?_, fun e command digits hLong => recognize_overlong hLong, ?_⟩
  · intro e t m hMatch hShort
    obtain ⟨rest, hFound⟩ := Embedding.matchAt?_of_mem_findAll hMatch
    obtain ⟨callText, content, hSplit⟩ := Embedding.split?_of_matchAt? hFound
    exact recovers_of_split? hBundled hHolds hSplit hShort
  · intro es t document hShort
    exact process_total hBundled hHolds hShort document

/-- Parameters that `dt` has no use for become text, also after a name that there is no handler
for. -/
theorem run_recovers_invalid_parameters :
    let clock : Unit → Calendar.Moment := fun _ => ⟨⟨2024, 5, 1, by decide⟩, .midnight, none⟩
    let r : Registry Unit := { environment := .bundled clock }
    let s := run r [.recognize .inline "%zzz()%".toList] (start ⟨(), [], [], 0⟩)
    Recovering clock r s ∧
      ⟨0, "%dt?a&b(c)%".toList⟩ ∈ Embedding.inline.findAll "%dt?a&b(c)% )%".toList ∧
      (r.recognize .inline "%dt?a&b(c)%".toList s).result =
        .ok (.literal "##_INVALID_DT_PARAMETERS_##".toList .inline) ∧
      Recovers clock r .inline "%dt?a&b(c)%".toList s := by
  intro clock r s
  have hUses : ∀ a ∈ [Action.recognize .inline "%zzz()%".toList],
      a.Uses (IsBundled clock r.settings) r :=
    List.forall_mem_singleton.mpr ⟨nofun, nofun⟩
  have hRecovering := run_recovers (bundledOnly_bundled clock rfl) ⟨(), [], [], 0⟩ hUses
  have hMatch : Embedding.inline.matchAt? "%dt?a&b(c)% )%".toList =
      some ("%dt?a&b(c)%".toList, " )%".toList) := by decide
  have hMem := List.mem_of_mem_head? (Embedding.head?_findAll hMatch)
  have hResult : (r.recognize .inline "%dt?a&b(c)%".toList s).result =
      .ok (.literal "##_INVALID_DT_PARAMETERS_##".toList .inline) := rfl
  refine ⟨hRecovering, hMem, hResult, hRecovering.recovers _ _ _ hMem ?_⟩
  intro digits hLong
  cases hResult.symm.trans (hRecovering.fails _ _ digits hLong)

/-- One digit more than are read, and the command fails. -/
theorem recognize_fails_digits :
    let clock : Unit → Calendar.Moment := fun _ => ⟨⟨2024, 5, 1, by decide⟩, .midnight, none⟩
    let r : Registry Unit := { environment := .bundled clock }
    let command := "%abstract?".toList ++ List.replicate 4301 '1' ++ "(x)%".toList
    BundledOnly clock r ∧ ⟨0, command⟩ ∈ Embedding.inline.findAll command ∧
      (r.recognize .inline command (start ⟨(), [], [], 0⟩)).result =
        .error (.tooManyDigits 4301) := by
  intro clock r command
  have hOnes : ∀ c ∈ List.replicate 4301 '1', c = '1' := fun c => List.eq_of_mem_replicate
  have hLength : (List.replicate 4301 '1').length = 4301 := List.length_replicate
  have hCommand : command = "%abstract?".toList ++ List.replicate 4301 '1' ++ "(x)%".toList := rfl
  -- From here the row of digits is a variable, so that nothing unfolds it.
  clear_value command
  generalize List.replicate 4301 '1' = digits at hOnes hLength hCommand
  have hValue : Call.isValue digits = true := by
    rw [Call.isValue, Bool.and_eq_true, List.all_eq_true]
    refine ⟨?_, fun c hc => hOnes c hc ▸ rfl⟩
    cases digits with
    | nil => cases hLength
    | cons c rest => rfl
  have hDigits : ∀ c ∈ digits, Text.isDigit c = true := by
    intro c hc
    rw [hOnes c hc]
    decide
  have hLong : Abstract.digitLimit < digits.length := by
    rw [hLength]
    decide
  have hEnclose : command = Embedding.inline.enclose ("abstract?".toList ++ digits) ['x'] := by
    simp [hCommand, Embedding.enclose, Embedding.inline, Embedding.ending]
  have hMatch : Embedding.inline.matchAt? command = some (command, []) := by
    have hCall := Embedding.mem_callPattern_of_writes (writes_abstract hValue)
    rw [Embedding.matchAt?_eq_some_iff, List.append_nil]
    exact ⟨rfl, _, hCall, ['x'], hEnclose, by decide⟩
  refine ⟨bundledOnly_bundled clock rfl, List.mem_of_mem_head? (Embedding.head?_findAll hMatch), ?_⟩
  rw [← hLength, hEnclose]
  exact recognize_overlong (overlong_abstract clock _ _ hValue hDigits hLong ['x'])

end Registry

end CommandMarkup
