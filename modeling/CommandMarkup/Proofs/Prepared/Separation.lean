import CommandMarkup.Proofs.Prepared.Bundled

/-! Literals and what handlers prepare are told apart from recognition to output. Which of the two
a command becomes is settled by the call, the table and the handler, in this order; no name can pass
for the marker of a literal; and a literal is put out without a look at any handler.

Main statement: `recognize_separates`. -/
namespace CommandMarkup.Registry

variable {ω : Type}

/-- Where a prepared command comes from, with what was asked for it and the world it leaves. The
handler is given the parameters as parsed, and with them their index, and the content. -/
inductive Origin (r : Registry ω) (e : Embedding) (callText content : Text) (s : State ω) :
    Prepared → List (Handle ω × Operation) → ω → Prop where
  | invalid (rejection : Call.Rejection) (hParse : Call.parse callText = .error rejection) :
      Origin r e callText content s (.literal Prepared.invalidSyntax e.type) [] s.world
  | absent (call : Call) (hParse : Call.parse callText = .ok call)
      (hResolve : (r.resolve call.name s).result = .ok none) :
      Origin r e callText content s (.literal Prepared.notFound e.type) []
        (r.resolve call.name s).state.world
  | reported (call : Call) (handle : Handle ω) (message : Text) (world : ω)
      (hParse : Call.parse callText = .ok call)
      (hResolve : (r.resolve call.name s).result = .ok (some handle))
      (hPrepare : handle.handler.prepare ⟨e.type, call.parameters, content⟩
        (r.resolve call.name s).state.world = ⟨.error (.reported message), world⟩) :
      Origin r e callText content s (.literal (Prepared.wrapError message) e.type)
        [(handle, .prepare)] world
  | prepared (call : Call) (handle : Handle ω) (payload : Value) (world : ω)
      (hParse : Call.parse callText = .ok call)
      (hResolve : (r.resolve call.name s).result = .ok (some handle))
      (hPrepare : handle.handler.prepare ⟨e.type, call.parameters, content⟩
        (r.resolve call.name s).state.world = ⟨.ok payload, world⟩) :
      Origin r e callText content s ⟨call.name, payload, e.type⟩ [(handle, .prepare)] world

/-- The name of the call resolves, to a handle or to none, and the handler raises nothing but errors
to be shown. -/
def ReportsOnly (r : Registry ω) (e : Embedding) (callText content : Text) (s : State ω) : Prop :=
  ∀ call, Call.parse callText = .ok call →
    (∀ fault, (r.resolve call.name s).result ≠ .error fault) ∧
    ∀ handle, (r.resolve call.name s).result = .ok (some handle) →
      ∀ fault, (handle.handler.prepare ⟨e.type, call.parameters, content⟩
        (r.resolve call.name s).state.world).result = .error fault →
      ∃ message, fault = .reported message

/-- In any registry and any state, the prepared command is put out as that text, and no step is
taken for it: no name is resolved and no handler is asked. -/
def NeedsNoHandler (p : Prepared) (output : Text) : Prop :=
  ∀ {ω : Type} (r : Registry ω) (e : Embedding) (document : Text) (s : State ω),
    (Action.renderPrepared e r.settings.outputMode p document).steps r s = [] ∧
    r.renderPrepared e r.settings.outputMode p document s = ⟨.ok true s, document ++ output⟩

/-- A literal is put out without any handler, even where the registry has none. -/
theorem needsNoHandler_literal (t : Text) (embedding : EmbeddingType) :
    NeedsNoHandler (.literal t embedding) (Text.escape t) := by
  intro ω r e document s
  constructor
  · exact if_pos (.inr rfl)
  · exact renderPrepared_literal r e t embedding document s

/-- The signs around an error are no markup. -/
theorem escape_wrapError (message : Text) : Text.escape (Prepared.wrapError message) =
    "##".toList ++ Text.escape message ++ "##".toList := by
  rw [Prepared.wrapError, Text.escape_append, Text.escape_append]
  rfl

/-- No handler prepares the command: its call cannot be read, its name resolves to none, or its
handler reports an error. -/
def Unusable (r : Registry ω) (e : Embedding) (callText content : Text) (s : State ω) : Prop :=
  (∃ rejection, Call.parse callText = .error rejection) ∨
  (∃ call, Call.parse callText = .ok call ∧ (r.resolve call.name s).result = .ok none) ∨
  ∃ call handle message, Call.parse callText = .ok call ∧
    (r.resolve call.name s).result = .ok (some handle) ∧
    (handle.handler.prepare ⟨e.type, call.parameters, content⟩
      (r.resolve call.name s).state.world).result = .error (.reported message)

namespace Origin

variable {r : Registry ω} {e : Embedding} {callText content : Text} {s : State ω} {p : Prepared}
  {asked : List (Handle ω × Operation)} {world : ω}

/-- A command that is recognized has met no fault on its way, only errors to be shown. -/
theorem reportsOnly (h : Origin r e callText content s p asked world) :
    ReportsOnly r e callText content s := by
  intro other hOther
  cases h with
  | invalid rejection hParse => cases hParse.symm.trans hOther
  | absent call hParse hResolve =>
      cases hParse.symm.trans hOther
      simp [hResolve]
  | reported call handle message _ hParse hResolve hPrepare =>
      cases hParse.symm.trans hOther
      simp [hResolve, hPrepare]
  | prepared call handle payload _ hParse hResolve hPrepare =>
      cases hParse.symm.trans hOther
      simp [hResolve, hPrepare]

/-- The marker tells where a prepared command comes from. -/
theorem isLiteral_iff (h : Origin r e callText content s p asked world) :
    p.isLiteral = true ↔ Unusable r e callText content s := by
  cases h with
  | invalid rejection hParse => exact iff_of_true rfl (.inl ⟨rejection, hParse⟩)
  | absent call hParse hResolve => exact iff_of_true rfl (.inr (.inl ⟨call, hParse, hResolve⟩))
  | reported call handle message _ hParse hResolve hPrepare =>
      refine iff_of_true rfl (.inr (.inr ⟨call, handle, message, hParse, hResolve, ?_⟩))
      rw [hPrepare]
  | prepared call handle payload _ hParse hResolve hPrepare =>
      apply iff_of_false
      · rw [isLiteral_call hParse]
        exact Bool.false_ne_true
      · simp [Unusable, hParse, hResolve, hPrepare]

/-- What counts as a literal was made as one; no handler can forge the marker. -/
theorem eq_literal (h : Origin r e callText content s p asked world)
    (hLiteral : p.isLiteral = true) : ∃ t, p = .literal t e.type := by
  cases h with
  | prepared call handle payload _ hParse =>
      rw [isLiteral_call hParse] at hLiteral
      cases hLiteral
  | _ => exact ⟨_, rfl⟩

/-- An error that the handler reports is what the command becomes, between signs. -/
theorem eq_wrapError (h : Origin r e callText content s p asked world) {call : Call}
    {handle : Handle ω} {message : Text} (hParse : Call.parse callText = .ok call)
    (hResolve : (r.resolve call.name s).result = .ok (some handle))
    (hFault : (handle.handler.prepare ⟨e.type, call.parameters, content⟩
      (r.resolve call.name s).state.world).result = .error (.reported message)) :
    p = .literal (Prepared.wrapError message) e.type := by
  cases h with
  | invalid rejection hOther => cases hParse.symm.trans hOther
  | absent other hOther hNone =>
      cases hParse.symm.trans hOther
      cases hResolve.symm.trans hNone
  | reported other found reported _ hOther hFound hPrepare =>
      cases hParse.symm.trans hOther
      cases hResolve.symm.trans hFound
      rw [hPrepare] at hFault
      cases hFault
      rfl
  | prepared other found payload _ hOther hFound hPrepare =>
      cases hParse.symm.trans hOther
      cases hResolve.symm.trans hFound
      rw [hPrepare] at hFault
      cases hFault

end Origin

section Recognition

variable {r : Registry ω} {host : Host ω} {as : List (Action ω)}

/-- A name that resolves is prepared by the handler of its own handle. -/
theorem prepares_resolved (hOwn : PassesOwn r as (start host)) {name : Text} {handle : Handle ω}
    (hFound : (r.resolve name (run r as (start host))).result = .ok (some handle))
    (occurrence : Occurrence) :
    Prepares handle.handler occurrence (r.resolve name (run r as (start host))).state
      (prepare handle occurrence (r.resolve name (run r as (start host))).state) := by
  have hResolved : (r.resolve name (run r as (start host))).state =
      run r (as ++ [.resolve name]) (start host) := by
    rw [run_append]
    rfl
  have hHeld := (resolve_named (sound_run r host as) hFound).2
  rw [hResolved] at hHeld ⊢
  exact prepare_own (hOwn.append_singleton (a := .resolve name) nofun) hHeld occurrence

/-- Asking an operation under a name requests it of the handle there, and of no other. -/
theorem request_asks (r : Registry ω) (name : Text) (operation : Operation)
    (ask : Handle ω → State ω → Outcome (State ω) Value) (s : State ω) :
    (asks r name operation ask s).filterMap Step.request =
      match (r.resolve name s).result with
      | .ok (some handle) => [(handle, operation)]
      | _ => [] := by
  rw [asks, List.filterMap_cons_none rfl]
  cases r.resolve name s with
  | mk result resolved =>
      cases result with
      | error fault => rfl
      | ok entry =>
          cases entry with
          | none => rfl
          | some handle => simp only [List.filterMap_cons, Step.request, request_reports]

variable {s : State ω} {e : Embedding} {command callText content : Text}

theorem requests_rejected {rejection : Call.Rejection}
    (hSplit : e.split? command = some (callText, content))
    (hParse : Call.parse callText = .error rejection) :
    requests r [.recognize e command] s = [] := by
  simp only [requests, trace, Action.steps, hSplit, hParse]
  rfl

/-- For a call that is read, the handler of its name is asked to prepare it, once, if there is
one. -/
theorem requests_recognize {call : Call} (hSplit : e.split? command = some (callText, content))
    (hParse : Call.parse callText = .ok call) :
    requests r [.recognize e command] s =
      match (r.resolve call.name s).result with
      | .ok (some handle) => [(handle, .prepare)]
      | _ => [] := by
  rw [← request_asks r call.name .prepare
    (fun handle s => prepare handle ⟨e.type, call.parameters, content⟩ s) s]
  simp only [requests, trace, Action.steps, hSplit, hParse, List.append_nil]

/-- A call that cannot be read becomes a literal, and the reason is noted in the log. -/
theorem recognize_rejected {rejection : Call.Rejection}
    (hSplit : e.split? command = some (callText, content))
    (hParse : Call.parse callText = .error rejection) :
    r.recognize e command s = .ok (.literal Prepared.invalidSyntax e.type)
      (s.note (.rejectedCall rejection.callText rejection.reason.message)) := by
  simp only [recognize, hSplit, hParse]

theorem recognize_absent {call : Call} (hSplit : e.split? command = some (callText, content))
    (hParse : Call.parse callText = .ok call)
    (hResolve : (r.resolve call.name s).result = .ok none) :
    r.recognize e command s =
      .ok (.literal Prepared.notFound e.type) (r.resolve call.name s).state := by
  simp only [recognize, hSplit, hParse, Outcome.andThen, hResolve]

theorem recognizedAs_world (name : Text) (embedding : EmbeddingType)
    (o : Outcome (State ω) Value) :
    (recognizedAs name embedding o).state.world = o.state.world := by
  obtain ⟨result, after⟩ := o
  cases result with
  | ok payload => rfl
  | error fault => cases fault <;> rfl

/-- Whatever is recognized has one of the origins. -/
theorem origin (hOwn : PassesOwn r as (start host))
    (hSplit : e.split? command = some (callText, content)) {p : Prepared}
    (h : (r.recognize e command (run r as (start host))).result = .ok p) :
    Origin r e callText content (run r as (start host)) p
      (requests r [.recognize e command] (run r as (start host)))
      (r.recognize e command (run r as (start host))).state.world := by
  cases recognition hSplit (run r as (start host)) with
  | rejected rejection hParse hResult =>
      cases hResult.symm.trans h
      rw [requests_rejected hSplit hParse, recognize_rejected hSplit hParse]
      exact .invalid rejection hParse
  | broken call fault _ _ hResult => cases hResult.symm.trans h
  | absent call hParse hResolve hResult =>
      cases hResult.symm.trans h
      rw [requests_recognize hSplit hParse, hResolve, recognize_absent hSplit hParse hResolve]
      exact .absent call hParse hResolve
  | found call handle hParse hResolve hOutcome =>
      obtain ⟨hPrepared, hWorld⟩ :=
        prepares_resolved hOwn hResolve ⟨e.type, call.parameters, content⟩
      rw [requests_recognize hSplit hParse, hResolve, hOutcome, recognizedAs_world]
      rw [hOutcome] at h
      generalize prepare handle ⟨e.type, call.parameters, content⟩
        (r.resolve call.name (run r as (start host))).state = o at *
      obtain ⟨result, after⟩ := o
      cases hPrepare : handle.handler.prepare ⟨e.type, call.parameters, content⟩
        (r.resolve call.name (run r as (start host))).state.world with
      | mk prepared world =>
          rw [hPrepare] at hPrepared hWorld
          subst hPrepared hWorld
          cases result with
          | ok payload =>
              cases h
              exact .prepared call handle payload _ hParse hResolve hPrepare
          | error fault =>
              cases fault
              case reported message =>
                cases h
                exact .reported call handle message _ hParse hResolve hPrepare
              all_goals cases h

/-- Something is recognized exactly where all that fails is reported. -/
theorem recognize_succeeds_iff (hOwn : PassesOwn r as (start host))
    (hSplit : e.split? command = some (callText, content)) :
    (∃ p, (r.recognize e command (run r as (start host))).result = .ok p) ↔
      ReportsOnly r e callText content (run r as (start host)) := by
  constructor
  · intro h
    obtain ⟨p, hResult⟩ := h
    exact (origin hOwn hSplit hResult).reportsOnly
  · intro h
    cases recognition hSplit (run r as (start host)) with
    | rejected rejection _ hResult => exact ⟨_, hResult⟩
    | broken call fault hParse hResolve _ => exact absurd hResolve ((h call hParse).1 fault)
    | absent call _ _ hResult => exact ⟨_, hResult⟩
    | found call handle hParse hResolve hOutcome =>
        have hPrepared :=
          (prepares_resolved hOwn hResolve ⟨e.type, call.parameters, content⟩).1
        rw [hOutcome]
        generalize prepare handle ⟨e.type, call.parameters, content⟩
          (r.resolve call.name (run r as (start host))).state = o at hPrepared
        obtain ⟨result, after⟩ := o
        cases result with
        | ok payload => exact ⟨_, rfl⟩
        | error fault =>
            obtain ⟨message, rfl⟩ := (h call hParse).2 handle hResolve fault hPrepared.symm
            exact ⟨_, rfl⟩

end Recognition

/-- What keeps literals and the output of handlers apart when a command is recognized in the state
that a run leads to, and put out at any time later. -/
structure Separated (r : Registry ω) (host : Host ω) (as : List (Action ω)) (e : Embedding)
    (command callText content : Text) (p : Prepared) : Prop where
  origin : Origin r e callText content (run r as (start host)) p
    (requests r [.recognize e command] (run r as (start host)))
    (r.recognize e command (run r as (start host))).state.world
  literal : p.isLiteral = true ↔ Unusable r e callText content (run r as (start host))
  named : p.isLiteral = false → p.command ≠ Prepared.literalMarker ∧
    ∃ call : Call, call.Writes callText ∧ p.command = Text.lower call.name
  escaped : p.isLiteral = true → ∃ t, p.payload = .text t ∧ NeedsNoHandler p (Text.escape t)
  /-- An error of the preparation comes out between signs. -/
  wrapped : ∀ call handle message, Call.parse callText = .ok call →
    (r.resolve call.name (run r as (start host))).result = .ok (some handle) →
    (handle.handler.prepare ⟨e.type, call.parameters, content⟩
      (r.resolve call.name (run r as (start host))).state.world).result =
        .error (.reported message) →
    NeedsNoHandler p ("##".toList ++ Text.escape message ++ "##".toList)
  /-- An error of the rendering comes out as it is. -/
  unwrapped : p.isLiteral = false → ∃ handle,
    (r.resolve p.command (run r as (start host))).result = .ok (some handle) ∧
    ∀ later : List (Action ω), PassesOwn r (as ++ .recognize e command :: later) (start host) →
      let s := run r (as ++ .recognize e command :: later) (start host)
      ∀ (e : Embedding) (document message : Text),
        (handle.handler.render e.type p.payload document s.world).1.result =
          .error (.reported message) →
        ∃ final, r.renderPrepared e r.settings.outputMode p document s =
          ⟨.ok true final, document ++
            (handle.handler.render e.type p.payload document s.world).2 ++ Text.escape message⟩

theorem separated {r : Registry ω} {host : Host ω} {as : List (Action ω)}
    (hOwn : PassesOwn r as (start host)) {e : Embedding} {command callText content : Text}
    (hSplit : e.split? command = some (callText, content)) {p : Prepared}
    (h : (r.recognize e command (run r as (start host))).result = .ok p) :
    Separated r host as e command callText content p where
  origin := origin hOwn hSplit h
  literal := (origin hOwn hSplit h).isLiteral_iff
  named := by
    intro hPlain
    refine ⟨of_decide_eq_false hPlain, ?_⟩
    obtain ⟨_, _, call, handle, hOther, hParse, _, hCommand, _⟩ := recognize_prepared h hPlain
    cases hSplit.symm.trans hOther
    obtain ⟨raw, hWrites, hLowered⟩ := Call.parse_eq_ok_iff.mp hParse
    refine ⟨raw, hWrites, ?_⟩
    rw [hCommand, ← hLowered]
    rfl
  escaped := by
    intro hLiteral
    obtain ⟨t, rfl⟩ := (origin hOwn hSplit h).eq_literal hLiteral
    exact ⟨t, rfl, needsNoHandler_literal t e.type⟩
  wrapped := by
    intro call handle message hParse hResolve hFault
    rw [(origin hOwn hSplit h).eq_wrapError hParse hResolve hFault, ← escape_wrapError]
    exact needsNoHandler_literal _ _
  unwrapped := by
    intro hPlain
    obtain ⟨handle, hMeets⟩ := meetsAgain hOwn h hPlain
    obtain ⟨_, _, call, _, _, hCommand, hFound, _⟩ := hMeets.prepared
    rw [hCommand]
    refine ⟨handle, hFound, ?_⟩
    intro later hLater s e document message hFault
    obtain ⟨_, hRender⟩ := hMeets.rendered later hLater
    obtain ⟨_, result, after, written, final, hRenders, hFinal, _⟩ := hRender e document
    obtain ⟨hResult, _, hWritten⟩ := hRenders
    dsimp only at hResult hWritten
    rw [hFault] at hResult
    rw [hResult, hWritten] at hFinal
    exact ⟨final, hFinal⟩

/-- After a run that passes own handles only, a delimited command is recognized exactly where all
that fails is reported, and what it is recognized as stays either a literal or what its handler
prepared. -/
theorem recognize_separates {r : Registry ω} {host : Host ω} {as : List (Action ω)}
    (hOwn : PassesOwn r as (start host)) {e : Embedding} {command callText content : Text}
    (hSplit : e.split? command = some (callText, content)) :
    ((∃ p, (r.recognize e command (run r as (start host))).result = .ok p) ↔
      ReportsOnly r e callText content (run r as (start host))) ∧
    ∀ p, (r.recognize e command (run r as (start host))).result = .ok p →
      Separated r host as e command callText content p := by
  constructor
  · exact recognize_succeeds_iff hOwn hSplit
  · intro p hResult
    exact separated hOwn hSplit hResult

/-- A handler that has no use for a command without content, under a name in capitals. -/
theorem recognize_separates_reported :
    let handler : Handler Unit := .ofPrepare ['P'] fun occurrence _ =>
      if occurrence.content = [] then .error (.reported ['<']) else .ok (.text occurrence.content)
    let r : Registry Unit := { environment := ⟨fun name => .missing name⟩ }
    let as : List (Action Unit) := [.register ['D', 'O'] (.ofHandler handler)]
    let s := run r as (start ⟨(), [], [], 0⟩)
    PassesOwn r as (start ⟨(), [], [], 0⟩) ∧
      Embedding.inline.split? "%Do?x()%".toList = some ("Do?x".toList, []) ∧
      (r.recognize .inline "%Do?x()%".toList s).result = .ok (.literal "##<##".toList .inline) ∧
      Separated r ⟨(), [], [], 0⟩ as .inline "%Do?x()%".toList "Do?x".toList []
        (.literal "##<##".toList .inline) ∧
      NeedsNoHandler (.literal "##<##".toList .inline) "##&lt;##".toList := by
  intro handler r as s
  have hOwn : PassesOwn r as (start ⟨(), [], [], 0⟩) :=
    PassesOwn.of_none (List.forall_mem_singleton.mpr rfl)
  have hSplit : Embedding.inline.split? "%Do?x()%".toList = some ("Do?x".toList, []) := by decide
  have hResult : (r.recognize .inline "%Do?x()%".toList s).result =
      .ok (.literal "##<##".toList .inline) := rfl
  have hSeparated := (recognize_separates hOwn hSplit).2 _ hResult
  obtain ⟨t, hPayload, hOutput⟩ := hSeparated.escaped rfl
  cases hPayload
  exact ⟨hOwn, hSplit, hResult, hSeparated, hOutput⟩

end CommandMarkup.Registry
