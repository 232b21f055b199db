import CommandMarkup.Proofs.Prepared.Phases
import CommandMarkup.Proofs.Registry.Bundled
import CommandMarkup.Proofs.Registry.Target

/-! The two phases of a command where no handlers but the bundled ones are held. What comes of
recognizing is a literal or finished markup, unless a name does not resolve or a number is too long
(`recognition_bundled`), and either is put out whole whenever that is (`PutsOut`). -/
namespace CommandMarkup.Registry

variable {ω : Type}

/-- The handler that prepares a command of the name, if the name resolves to one. -/
def preparer (r : Registry ω) (name : Text) (s : State ω) : Option (Handler ω) :=
  match (r.resolve name s).result with
  | .ok (some handle) => some (boundHandler handle .prepare (r.resolve name s).state)
  | _ => none

theorem preparer_found {r : Registry ω} {name : Text} {s : State ω} {handle : Handle ω}
    (h : (r.resolve name s).result = .ok (some handle)) :
    preparer r name s = some (boundHandler handle .prepare (r.resolve name s).state) := by
  rw [preparer, h]

/-- Preparing asks the handler that is bound to it, in the world of the state. -/
theorem prepares_boundHandler (handle : Handle ω) (occurrence : Occurrence) (s : State ω) :
    Prepares (boundHandler handle .prepare s) occurrence s (prepare handle occurrence s) := by
  obtain ⟨target, after, hBind, hHandler, hWorld⟩ := bind_boundHandler handle .prepare s
  rw [← hHandler]
  exact prepares_of_bind hBind hWorld occurrence

theorem renders_boundHandler (handle : Handle ω) (embedding : EmbeddingType) (payload : Value)
    (document : Text) (s : State ω) :
    Renders (boundHandler handle .render s) embedding payload document s
      (render handle embedding payload document s) := by
  obtain ⟨target, after, hBind, hHandler, hWorld⟩ := bind_boundHandler handle .render s
  rw [← hHandler]
  exact renders_of_bind hBind hWorld embedding payload document

/-- Whenever the prepared command is put out later, that text is added to the document and nothing
else, and no handlers but those with the property need be brought in before. -/
def PutsOut (P : Handler ω → Prop) (r : Registry ω) (p : Prepared) (output : Text) (s : State ω) :
    Prop :=
  ∀ later : List (Action ω), (∀ a ∈ later, a.Uses P r) → ∀ (e : Embedding) (document : Text),
    ∃ final, r.renderPrepared e r.settings.outputMode p document (run r later s) =
      ⟨.ok true final, document ++ output⟩

/-- A literal is put out escaped, whatever was done before. -/
theorem putsOut_literal (P : Handler ω → Prop) (r : Registry ω) (t : Text)
    (embedding : EmbeddingType) (s : State ω) :
    PutsOut P r (.literal t embedding) (Text.escape t) s := by
  intro later _ e document
  exact ⟨_, renderPrepared_literal r e t embedding document _⟩

/-- The name of a prepared command that is no literal stays resolved. -/
theorem recognize_held {r : Registry ω} {e : Embedding} {command : Text} {s : State ω}
    {p : Prepared} (h : (r.recognize e command s).result = .ok p) (hPlain : p.isLiteral = false) :
    ∃ handle, (r.recognize e command s).state.handles.get? (Text.lower p.command) =
      some (some handle) := by
  obtain ⟨_, content, call, handle, _, _, hFound, hCommand, _, hState⟩ :=
    recognize_prepared h hPlain
  rw [hState, hCommand]
  exact ⟨handle, handle_run (resolve_held hFound) r
    [.prepare handle ⟨e.type, call.parameters, content⟩]⟩

/-- The bare parameters of a call are of ASCII. -/
theorem isAscii_of_parse {callText value : Text} {call : Call}
    (h : Call.parse callText = .ok call) (hValue : .bare value ∈ call.parameters) :
    ∀ c ∈ value, Text.isAscii c = true := by
  have hForm : value ∈ Call.Pattern.value := (Call.wellFormed_of_parse h).1.parameters _ hValue
  rw [Call.Pattern.mem_value_iff, Call.isValue, Bool.and_eq_true, List.all_eq_true] at hForm
  intro c hc
  have hChar := hForm.2 c hc
  rw [Call.isValueChar, Bool.or_eq_true, Bool.or_eq_true, beq_iff_eq, beq_iff_eq] at hChar
  rcases hChar with (hName | rfl) | rfl
  · exact Call.isAscii_of_isNameChar hName
  · rfl
  · rfl

/-- What stands for the command of a literal is not the name of a call. -/
theorem isLiteral_call {callText : Text} {call : Call} (h : Call.parse callText = .ok call)
    (payload : Value) (embedding : EmbeddingType) :
    (⟨call.name, payload, embedding⟩ : Prepared).isLiteral = false := by
  rw [Prepared.isLiteral, decide_eq_false_iff_not]
  intro hMarker
  have hName := (Call.Pattern.isName_of_mem_smallName (Call.wellFormed_of_parse h).1.name).1
  rw [show call.name = Prepared.literalMarker from hMarker] at hName
  cases hName

section Bundled

open Handler

variable {clock : ω → Calendar.Moment} {r : Registry ω} {s : State ω}

/-- Markup that is prepared already is put out as it is. -/
theorem putsOut_text (hLoads : ∀ handle, r.Loads handle → IsBundled clock r.settings handle.handler)
    (hHolds : Holds (IsBundled clock r.settings) s) {p : Prepared} {t : Text} {handle : Handle ω}
    (hPlain : p.isLiteral = false) (hPayload : p.payload = .text t)
    (hHeld : s.handles.get? (Text.lower p.command) = some (some handle)) :
    PutsOut (IsBundled clock r.settings) r p t s := by
  intro later hLater e document
  -- Nothing done in between takes the handle away, and it can only be bound to a bundled handler.
  have hStill := handle_run hHeld r later
  have hAfter := holds_run ⟨hLoads, hLater⟩ hHolds
  obtain ⟨kind, hKind⟩ := holds_boundHandler (hAfter.handles _ _ hStill) hAfter .render
  have hRenders := renders_boundHandler handle e.type p.payload document (run r later s)
  cases hRender : render handle e.type p.payload document (run r later s) with
  | mk outcome written =>
      rw [hRender, Renders, hKind, Bundled.render_eq, hPayload] at hRenders
      obtain ⟨hResult, _, hWritten⟩ := hRenders
      obtain ⟨final, hFinal, _⟩ := renderPrepared_found hPlain (resolve_known r hStill) hRender
      refine ⟨final, ?_⟩
      rw [hFinal, hResult, show written = [] from hWritten, List.append_nil]
      rfl

/-- How recognizing a command with that call text can end where no handlers but the bundled ones are
held. -/
inductive BundledRecognition (clock : ω → Calendar.Moment) (r : Registry ω) (e : Embedding)
    (callText : Text) (s : State ω) (o : Outcome (State ω) Prepared) : Prop where
  | literal (t : Text) (hResult : o.result = .ok (.literal t e.type))
  | markup (call : Call) (kind : Bundled) (t : Text) (hParse : Call.parse callText = .ok call)
      (hPreparer : preparer r call.name s = some (kind.handler clock r.settings))
      (hResult : o.result = .ok ⟨call.name, .text ((Wrapper.ofClass e.type
        (kind.cssClass r.settings call.parameters)).around (Text.escape t)), e.type⟩)
  | overlong (call : Call) (digits : Text) (hParse : Call.parse callText = .ok call)
      (hPreparer : preparer r call.name s = some (Abstract.handler r.settings))
      (hOverlong : Abstract.Overlong call.parameters digits)
      (hResult : o.result = .error (.tooManyDigits digits.length))
  | broken (call : Call) (fault : Fault) (hParse : Call.parse callText = .ok call)
      (hResolve : (r.resolve call.name s).result = .error fault)
      (hResult : o.result = .error fault)

/-- Where no handlers but the bundled ones are held, recognizing comes to a literal, to markup of
one of them, or to one of the two faults. The text that comes out of the document stands escaped in
all of it. -/
theorem recognition_bundled
    (hLoads : ∀ handle, r.Loads handle → IsBundled clock r.settings handle.handler)
    (hHolds : Holds (IsBundled clock r.settings) s) {e : Embedding}
    {command callText content : Text} (hSplit : e.split? command = some (callText, content)) :
    BundledRecognition clock r e callText s (r.recognize e command s) := by
  cases recognition hSplit s with
  | rejected rejection _ hResult => exact .literal _ hResult
  | broken call fault hParse hResolve hResult => exact .broken call fault hParse hResolve hResult
  | absent call _ _ hResult => exact .literal _ hResult
  | found call handle hParse hFound hOutcome =>
      have hResolved := holds_resolve hLoads hHolds call.name
      obtain ⟨kind, hKind⟩ :=
        holds_boundHandler (hResolved.handles _ _ (resolve_held hFound)) hResolved .prepare
      have hPreparer : preparer r call.name s = some (kind.handler clock r.settings) := by
        rw [preparer_found hFound, hKind]
      obtain ⟨hPrepared, _⟩ := prepares_boundHandler handle ⟨e.type, call.parameters, content⟩
        (r.resolve call.name s).state
      rw [hKind] at hPrepared
      rw [hOutcome]
      generalize prepare handle ⟨e.type, call.parameters, content⟩ (r.resolve call.name s).state =
        prepared at hPrepared
      obtain ⟨result, last⟩ := prepared
      have hAscii : ∀ value, call.parameters = [.bare value] →
          ∀ c ∈ value, Text.isAscii c = true := by
        intro value hParameters
        refine isAscii_of_parse hParse ?_
        rw [hParameters]
        exact List.mem_cons_self
      rcases kind.prepare_cases clock r.settings ⟨e.type, call.parameters, content⟩
          (r.resolve call.name s).state.world hAscii with
        ⟨t, hText⟩ | ⟨message, hReported⟩ | ⟨digits, rfl, hOverlong, hFault⟩
      · obtain rfl := hPrepared.trans hText
        exact .markup call kind t hParse hPreparer rfl
      · obtain rfl := hPrepared.trans hReported
        exact .literal _ rfl
      · obtain rfl := hPrepared.trans hFault
        exact .overlong call digits hParse hPreparer hOverlong rfl

/-- What is recognized is put out whole whenever that is: a literal escaped, markup as it is. -/
theorem putsOut_recognized
    (hLoads : ∀ handle, r.Loads handle → IsBundled clock r.settings handle.handler)
    (hHolds : Holds (IsBundled clock r.settings) s) {e : Embedding} {command output : Text}
    {call : Call} {callText : Text} (hParse : Call.parse callText = .ok call)
    (h : (r.recognize e command s).result = .ok ⟨call.name, .text output, e.type⟩) :
    PutsOut (IsBundled clock r.settings) r ⟨call.name, .text output, e.type⟩ output
      (r.recognize e command s).state := by
  have hPlain := isLiteral_call hParse (.text output) e.type
  obtain ⟨handle, hHeld⟩ := recognize_held h hPlain
  have hAfter : Holds (IsBundled clock r.settings) (r.recognize e command s).state :=
    holds_action hLoads (a := .recognize e command) ⟨nofun, nofun⟩ hHolds
  exact putsOut_text hLoads hAfter hPlain rfl hHeld

end Bundled

end CommandMarkup.Registry
