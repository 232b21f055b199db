import CommandMarkup.Prepared.Recognize
import CommandMarkup.Prepared.Render

/-! The two phases of a command apart from how its name is resolved: where a prepared command that
is no literal comes from, and what putting one out does to the document. -/
namespace CommandMarkup.Registry

variable {ω : Type}

/-- What putting out the result of a handler comes to, with the document after it. -/
def putOut (result : Except Fault Value) (document : Text) : Except Fault Bool × Text :=
  match result with
  | .error (.reported message) => (.ok true, document ++ Text.escape message)
  | .error fault => (.error fault, document)
  | .ok output =>
    match appendOutput output document with
    | .ok document => (.ok true, document)
    | .error fault => (.error fault, document)

/-- What the outcome of a preparation is recognized as. -/
def recognizedAs (name : Text) (embedding : EmbeddingType) :
    Outcome (State ω) Value → Outcome (State ω) Prepared
  | ⟨.ok payload, s⟩ => .ok ⟨name, payload, embedding⟩ s
  | ⟨.error (.reported message), s⟩ =>
    .ok (.literal (Prepared.wrapError message) embedding) (s.note (.reported name message))
  | ⟨.error fault, s⟩ => .error fault s

/-- What recognizing comes to when the delimiters are off. -/
def recognizeCall (r : Registry ω) (type : EmbeddingType) (callText content : Text) (s : State ω) :
    Outcome (State ω) Prepared :=
  match Call.parse callText with
  | .error rejection =>
    .ok (.literal Prepared.invalidSyntax type)
      (s.note (.rejectedCall rejection.callText rejection.reason.message))
  | .ok call =>
    (r.resolve call.name s).andThen fun entry s =>
      match entry with
      | none => .ok (.literal Prepared.notFound type) s
      | some handle =>
        recognizedAs call.name type (prepare handle ⟨type, call.parameters, content⟩ s)

/-- Recognizing a command goes on with its two parts once it is split, and of the embedding nothing
but its type is left. -/
theorem recognize_of_split {e : Embedding} {command callText content : Text}
    (hSplit : e.split? command = some (callText, content)) (r : Registry ω) (s : State ω) :
    r.recognize e command s = recognizeCall r e.type callText content s := by
  rw [recognize, hSplit]
  rfl

/-- How recognizing a command with that call text and content can end. -/
inductive Recognition (r : Registry ω) (e : Embedding) (callText content : Text) (s : State ω)
    (o : Outcome (State ω) Prepared) : Prop where
  | rejected (rejection : Call.Rejection) (hParse : Call.parse callText = .error rejection)
      (hResult : o.result = .ok (.literal Prepared.invalidSyntax e.type))
  | broken (call : Call) (fault : Fault) (hParse : Call.parse callText = .ok call)
      (hResolve : (r.resolve call.name s).result = .error fault)
      (hResult : o.result = .error fault)
  | absent (call : Call) (hParse : Call.parse callText = .ok call)
      (hResolve : (r.resolve call.name s).result = .ok none)
      (hResult : o.result = .ok (.literal Prepared.notFound e.type))
  | found (call : Call) (handle : Handle ω) (hParse : Call.parse callText = .ok call)
      (hResolve : (r.resolve call.name s).result = .ok (some handle))
      (hOutcome : o = recognizedAs call.name e.type
        (prepare handle ⟨e.type, call.parameters, content⟩ (r.resolve call.name s).state))

/-- A command that can be split is recognized by its parts alone. The cases follow the call from the
parser through the registry to its handler. -/
theorem recognition {r : Registry ω} {e : Embedding} {command callText content : Text}
    (hSplit : e.split? command = some (callText, content)) (s : State ω) :
    Recognition r e callText content s (r.recognize e command s) := by
  rw [recognize, hSplit]
  dsimp only
  cases hParse : Call.parse callText with
  | error rejection => exact .rejected rejection hParse rfl
  | ok call =>
      dsimp only
      cases hResolve : r.resolve call.name s with
      | mk result resolved =>
          cases result with
          | error fault => exact .broken call fault hParse (by rw [hResolve]) rfl
          | ok entry =>
              cases entry with
              | none => exact .absent call hParse (by rw [hResolve]) rfl
              | some handle =>
                  refine .found call handle hParse (by rw [hResolve]) ?_
                  rw [hResolve]
                  rfl

/-- A fault that recognizing ends in is the one that the preparation ended in. A reported error is
no fault any more. -/
theorem recognizedAs_error {name : Text} {embedding : EmbeddingType} {o : Outcome (State ω) Value}
    {fault : Fault} (h : (recognizedAs name embedding o).result = .error fault) :
    o.result = .error fault := by
  obtain ⟨result, after⟩ := o
  cases result with
  | ok payload => cases h
  | error raised => cases raised <;> cases h <;> rfl

/-- The call text is that of a call, and the fault is one that resolving its name ends in, or
preparing it with its handler. -/
def BreaksWith (r : Registry ω) (e : Embedding) (callText content : Text) (s : State ω)
    (fault : Fault) : Prop :=
  ∃ call, Call.parse callText = .ok call ∧
    ((r.resolve call.name s).result = .error fault ∨
      ∃ handle, (r.resolve call.name s).result = .ok (some handle) ∧
        (prepare handle ⟨e.type, call.parameters, content⟩
          (r.resolve call.name s).state).result = .error fault)

/-- Once a command has been split, no other fault is left than those from outside. -/
theorem Recognition.breaksWith {r : Registry ω} {e : Embedding} {callText content : Text}
    {s : State ω} {o : Outcome (State ω) Prepared} (h : Recognition r e callText content s o)
    {fault : Fault} (hFault : o.result = .error fault) :
    r.BreaksWith e callText content s fault := by
  cases h with
  | rejected rejection _ hResult =>
      rw [hResult] at hFault
      cases hFault
  | broken call raised hParse hResolve hResult =>
      rw [hResult] at hFault
      cases hFault
      exact ⟨call, hParse, .inl hResolve⟩
  | absent call _ _ hResult =>
      rw [hResult] at hFault
      cases hFault
  | found call handle hParse hResolve hOutcome =>
      rw [hOutcome] at hFault
      exact ⟨call, hParse, .inr ⟨handle, hResolve, recognizedAs_error hFault⟩⟩

/-- What is no literal has the name of the call and the payload that the handler made. -/
theorem recognizedAs_plain {name : Text} {embedding : EmbeddingType}
    {o : Outcome (State ω) Value} {p : Prepared}
    (h : (recognizedAs name embedding o).result = .ok p) (hPlain : p.isLiteral = false) :
    p.command = name ∧ o.result = .ok p.payload ∧
      (recognizedAs name embedding o).state = o.state := by
  obtain ⟨result, after⟩ := o
  cases result with
  | ok payload =>
      cases h
      exact ⟨rfl, rfl, rfl⟩
  | error fault =>
      cases fault
      case reported message =>
        cases h
        cases hPlain
      all_goals cases h

/-- A prepared command that is no literal is what the handler prepared that the name of the call
resolved to. -/
theorem recognize_prepared {r : Registry ω} {e : Embedding} {command : Text} {s : State ω}
    {p : Prepared} (h : (r.recognize e command s).result = .ok p) (hPlain : p.isLiteral = false) :
    ∃ callText content call handle, e.split? command = some (callText, content) ∧
      Call.parse callText = .ok call ∧
      (r.resolve call.name s).result = .ok (some handle) ∧
      p.command = call.name ∧
      (prepare handle ⟨e.type, call.parameters, content⟩ (r.resolve call.name s).state).result =
        .ok p.payload ∧
      (r.recognize e command s).state =
        (prepare handle ⟨e.type, call.parameters, content⟩ (r.resolve call.name s).state).state := by
  cases hSplit : e.split? command with
  | none =>
      rw [recognize, hSplit] at h
      cases h
  | some parts =>
      obtain ⟨callText, content⟩ := parts
      cases recognition hSplit s with
      | rejected rejection _ hResult =>
          rw [hResult] at h
          cases h
          cases hPlain
      | broken call fault _ _ hResult =>
          rw [hResult] at h
          cases h
      | absent call _ _ hResult =>
          rw [hResult] at h
          cases h
          cases hPlain
      | found call handle hParse hResolve hOutcome =>
          rw [hOutcome] at h ⊢
          exact ⟨callText, content, call, handle, rfl, hParse, hResolve,
            recognizedAs_plain h hPlain⟩

/-- In the output mode a literal is put out escaped. -/
theorem renderPrepared_literal (r : Registry ω) (e : Embedding) (t : Text)
    (embedding : EmbeddingType) (document : Text) (s : State ω) :
    r.renderPrepared e r.settings.outputMode (.literal t embedding) document s =
      ⟨.ok true s, document ++ Text.escape t⟩ :=
  if_neg fun h => h rfl

/-- In the output mode a prepared command whose name resolves is put out by the render target: the
document grows by what the handler wrote and by what its result puts out. -/
theorem renderPrepared_found {r : Registry ω} {e : Embedding} {p : Prepared}
    {document written : Text} {s resolved after : State ω} {handle : Handle ω}
    {result : Except Fault Value} (hPlain : p.isLiteral = false)
    (hResolve : r.resolve p.command s = .ok (some handle) resolved)
    (hRender : render handle e.type p.payload document resolved = (⟨result, after⟩, written)) :
    ∃ final, r.renderPrepared e r.settings.outputMode p document s =
        ⟨⟨(putOut result (document ++ written)).1, final⟩, (putOut result (document ++ written)).2⟩ ∧
      final.world = after.world := by
  rw [renderPrepared, if_neg (fun h => h rfl), hPlain, if_neg Bool.false_ne_true, hResolve,
    Outcome.ok]
  dsimp only
  rw [hRender]
  cases result with
  | error fault => cases fault <;> exact ⟨_, rfl, rfl⟩
  | ok output =>
      dsimp only [putOut]
      cases appendOutput output (document ++ written) <;> exact ⟨_, rfl, rfl⟩

end CommandMarkup.Registry
