import CommandMarkup.Proofs.Prepared.Appending
import CommandMarkup.Proofs.Registry.Answer

/-! Recognizing and putting out as functions of what the name comes to. Of the state, nothing counts
but the answer for the name and the world (`recognize_result`, `renderPrepared_result`), and where
the handlers are pure, not even the world. -/
namespace CommandMarkup.Registry

variable {ω : Type}

/-- What preparing with the handlers of an answer comes to. -/
def preparedBy (answer : Answer ω) (occurrence : Occurrence) (world : ω) :
    Except Fault (Option (Except Fault Value)) :=
  answer.map (Option.map fun phases => ((phases .prepare).prepare occurrence world).result)

/-- What rendering with the handlers of an answer comes to, with what they write themselves. -/
def renderedBy (answer : Answer ω) (embedding : EmbeddingType) (payload : Value) (document : Text)
    (world : ω) : Except Fault (Option (Except Fault Value × Text)) :=
  answer.map (Option.map fun phases =>
    (((phases .render).render embedding payload document world).1.result,
      ((phases .render).render embedding payload document world).2))

/-- What an occurrence under the name would be prepared to. -/
def preparation (r : Registry ω) (s : State ω) (name : Text) (occurrence : Occurrence) :
    Except Fault (Option (Except Fault Value)) :=
  preparedBy (answer r name s) occurrence (r.resolve name s).state.world

/-- What a payload under the name would be rendered to. -/
def rendition (r : Registry ω) (s : State ω) (name : Text) (embedding : EmbeddingType)
    (payload : Value) (document : Text) : Except Fault (Option (Except Fault Value × Text)) :=
  renderedBy (answer r name s) embedding payload document (r.resolve name s).state.world

/-- The prepared command that a preparation makes. -/
def recognizedFrom (name : Text) (embedding : EmbeddingType) :
    Except Fault (Option (Except Fault Value)) → Except Fault Prepared
  | .error fault => .error fault
  | .ok none => .ok (.literal Prepared.notFound embedding)
  | .ok (some (.ok payload)) => .ok ⟨name, payload, embedding⟩
  | .ok (some (.error (.reported message))) =>
    .ok (.literal (Prepared.wrapError message) embedding)
  | .ok (some (.error fault)) => .error fault

/-- The prepared command that a delimited command makes, where occurrences are prepared so. -/
def recognitionBy (prepare : Text → Occurrence → Except Fault (Option (Except Fault Value)))
    (e : Embedding) (command : Text) : Except Fault Prepared :=
  match e.split? command with
  | none => .error (.notDelimited e.type command)
  | some (callText, content) =>
    match Call.parse callText with
    | .error _ => .ok (.literal Prepared.invalidSyntax e.type)
    | .ok call =>
      recognizedFrom call.name e.type (prepare call.name ⟨e.type, call.parameters, content⟩)

/-- What a rendition adds to a document, and whether that is all right. -/
def renderedFrom : Except Fault (Option (Except Fault Value × Text)) → Except Fault Bool × Text
  | .error fault => (.error fault, [])
  | .ok none => (.ok true, Prepared.notFound)
  | .ok (some (result, written)) => (verdict result, written ++ piece result)

theorem preparation_found {r : Registry ω} {s : State ω} {name : Text} {handle : Handle ω}
    (h : (r.resolve name s).result = .ok (some handle)) (occurrence : Occurrence) :
    preparation r s name occurrence =
      .ok (some (prepare handle occurrence (r.resolve name s).state).result) := by
  obtain ⟨hResult, _⟩ := prepares_boundHandler handle occurrence (r.resolve name s).state
  rw [preparation, answer, h, hResult]
  rfl

/-- What a preparation is recognized as depends on its result alone. -/
theorem recognizedAs_result (name : Text) (embedding : EmbeddingType)
    (o : Outcome (State ω) Value) : (recognizedAs name embedding o).result =
      recognizedFrom name embedding (.ok (some o.result)) := by
  obtain ⟨result, after⟩ := o
  cases result with
  | ok payload => rfl
  | error fault => cases fault <;> rfl

/-- What a command is recognized as depends on the state through the preparation alone. -/
theorem recognize_result (r : Registry ω) (e : Embedding) (command : Text) (s : State ω) :
    (r.recognize e command s).result = recognitionBy (preparation r s) e command := by
  rw [recognitionBy]
  cases hSplit : e.split? command with
  | none => simp only [recognize, hSplit, Outcome.error]
  | some parts =>
      obtain ⟨callText, content⟩ := parts
      dsimp only
      cases recognition hSplit s with
      | rejected rejection hParse hResult => rw [hParse, hResult]
      | broken call fault hParse hResolve hResult =>
          rw [hParse, hResult]
          dsimp only
          rw [preparation, answer, hResolve]
          rfl
      | absent call hParse hResolve hResult =>
          rw [hParse, hResult]
          dsimp only
          rw [preparation, answer, hResolve]
          rfl
      | found call handle hParse hResolve hOutcome =>
          rw [hParse, hOutcome]
          dsimp only
          rw [preparation_found hResolve, recognizedAs_result]

/-- The command is a call of the name, which is prepared from that occurrence. -/
def Calls (e : Embedding) (command name : Text) (occurrence : Occurrence) : Prop :=
  ∃ callText content call, e.split? command = some (callText, content) ∧
    Call.parse callText = .ok call ∧ call.name = name ∧
    ⟨e.type, call.parameters, content⟩ = occurrence

section Calls

variable {e : Embedding} {command name : Text} {occurrence : Occurrence}
  {prepare other : Text → Occurrence → Except Fault (Option (Except Fault Value))}

theorem Calls.lower_eq (h : Calls e command name occurrence) : Text.lower name = name := by
  obtain ⟨callText, _, call, _, hParse, rfl, _⟩ := h
  obtain ⟨hName, hSmall⟩ :=
    Call.Pattern.isName_of_mem_smallName (Call.wellFormed_of_parse hParse).1.name
  rw [Call.lower_name hName, hSmall]

/-- A command that calls a name is prepared to no literal, since the marker of literals is no
name. -/
theorem Calls.isLiteral_eq (h : Calls e command name occurrence) (payload : Value)
    (embedding : EmbeddingType) : (⟨name, payload, embedding⟩ : Prepared).isLiteral = false := by
  obtain ⟨callText, _, call, _, hParse, rfl, _⟩ := h
  exact isLiteral_call hParse payload embedding

/-- A command is at most one call. -/
theorem Calls.unique (h : Calls e command name occurrence) {called : Text} {given : Occurrence}
    (hOther : Calls e command called given) : called = name ∧ given = occurrence := by
  obtain ⟨callText, content, call, hSplit, hParse, rfl, rfl⟩ := h
  obtain ⟨_, _, _, hSplit', hParse', rfl, rfl⟩ := hOther
  cases hSplit.symm.trans hSplit'
  cases hParse.symm.trans hParse'
  exact ⟨rfl, rfl⟩

theorem recognitionBy_calls (h : Calls e command name occurrence) :
    recognitionBy prepare e command = recognizedFrom name e.type (prepare name occurrence) := by
  obtain ⟨callText, content, call, hSplit, hParse, rfl, rfl⟩ := h
  simp only [recognitionBy, hSplit, hParse]

/-- A command that is no call comes to the same however calls are prepared. -/
theorem recognitionBy_uncalled (h : ∀ name occurrence, ¬ Calls e command name occurrence) :
    recognitionBy prepare e command =
      if (e.split? command).isSome then .ok (.literal Prepared.invalidSyntax e.type)
      else .error (.notDelimited e.type command) := by
  rw [recognitionBy]
  cases hSplit : e.split? command with
  | none => rfl
  | some parts =>
      obtain ⟨callText, content⟩ := parts
      dsimp only
      cases hParse : Call.parse callText with
      | error rejection => rfl
      | ok call => exact absurd ⟨callText, content, call, hSplit, hParse, rfl, rfl⟩ (h _ _)

/-- Two ways of preparing need only agree on the call that the command makes. -/
theorem recognitionBy_congr (h : ∀ name occurrence, Calls e command name occurrence →
      prepare name occurrence = other name occurrence) :
    recognitionBy prepare e command = recognitionBy other e command := by
  by_cases hCalls : ∃ name occurrence, Calls e command name occurrence
  · obtain ⟨name, occurrence, hCall⟩ := hCalls
    rw [recognitionBy_calls hCall, recognitionBy_calls hCall, h name occurrence hCall]
  · have hNone : ∀ name occurrence, ¬ Calls e command name occurrence := by
      intro name occurrence hCall
      exact hCalls ⟨name, occurrence, hCall⟩
    rw [recognitionBy_uncalled hNone, recognitionBy_uncalled hNone]

/-- Of what is recognized, a literal is text, and anything else has the name of the call. -/
theorem recognitionBy_cases {p : Prepared} (h : recognitionBy prepare e command = .ok p) :
    (∃ t, p = .literal t e.type) ∨
      p.isLiteral = false ∧ ∃ occurrence, Calls e command p.command occurrence := by
  by_cases hCalls : ∃ name occurrence, Calls e command name occurrence
  · obtain ⟨name, occurrence, hCall⟩ := hCalls
    rw [recognitionBy_calls hCall, recognizedFrom.eq_def] at h
    split at h
    · cases h
    · exact .inl ⟨_, (Except.ok.inj h).symm⟩
    · cases h
      exact .inr ⟨hCall.isLiteral_eq _ _, occurrence, hCall⟩
    · exact .inl ⟨_, (Except.ok.inj h).symm⟩
    · cases h
  · rw [recognitionBy_uncalled fun name occurrence hCall => hCalls ⟨name, occurrence, hCall⟩] at h
    split at h
    · exact .inl ⟨_, (Except.ok.inj h).symm⟩
    · cases h

end Calls

/-- What putting out a command that is no literal comes to, and what it adds, depends on the state
through the rendition alone. -/
theorem renderPrepared_result (r : Registry ω) (e : Embedding) {p : Prepared} (document : Text)
    (s : State ω) (hPlain : p.isLiteral = false) : ∃ final,
    r.renderPrepared e r.settings.outputMode p document s =
      ⟨⟨(renderedFrom (rendition r s p.command e.type p.payload document)).1, final⟩,
        document ++ (renderedFrom (rendition r s p.command e.type p.payload document)).2⟩ := by
  cases hResolve : r.resolve p.command s with
  | mk result resolved =>
      rw [rendition, answer, hResolve]
      cases result with
      | error fault =>
          refine ⟨resolved, ?_⟩
          rw [renderPrepared, if_neg (not_not.mpr rfl), hPlain, if_neg Bool.false_ne_true, hResolve]
          simp only [answerOf, renderedBy, Except.map, renderedFrom, List.append_nil, Outcome.error]
      | ok entry =>
          cases entry with
          | none =>
              refine ⟨resolved, ?_⟩
              rw [renderPrepared, if_neg (not_not.mpr rfl), hPlain, if_neg Bool.false_ne_true,
                hResolve]
              rfl
          | some handle =>
              obtain ⟨hResult, _, hWritten⟩ :=
                renders_boundHandler handle e.type p.payload document resolved
              cases hRender : render handle e.type p.payload document resolved with
              | mk outcome written =>
                  obtain ⟨final, hFinal, _⟩ := renderPrepared_found hPlain hResolve hRender
                  rw [hRender] at hResult hWritten
                  dsimp only at hResult hWritten
                  rw [putOut_eq, List.append_assoc] at hFinal
                  refine ⟨final, ?_⟩
                  rw [hFinal, hResult, hWritten]
                  rfl

/-- What a pure command is: preparing and rendering as functions of their arguments. -/
structure Behaviour where
  prepare : Occurrence → Except Fault Value
  render : EmbeddingType → Value → Except Fault Value

/-- The handlers do what the behaviour says, in whatever world and for whatever document, and write
nothing themselves. -/
structure Behaviour.Governs (b : Behaviour) (phases : Phases ω) : Prop where
  prepares : ∀ occurrence world,
    ((phases .prepare).prepare occurrence world).result = b.prepare occurrence
  renders : ∀ embedding payload document world,
    ((phases .render).render embedding payload document world).1.result =
      b.render embedding payload
  writes : ∀ embedding payload document world,
    ((phases .render).render embedding payload document world).2 = []

/-- The same for an answer, with the fault if there is one. -/
inductive Governed : Except Fault (Option Behaviour) → Answer ω → Prop where
  | broken (fault : Fault) : Governed (.error fault) (.error fault)
  | absent : Governed (.ok none) (.ok none)
  | found {b : Behaviour} {phases : Phases ω} (h : b.Governs phases) :
      Governed (.ok (some b)) (.ok (some phases))

/-- Where handlers are governed by a behaviour, the world does not take part in preparing. -/
theorem Governed.preparedBy_eq {behaviour : Except Fault (Option Behaviour)} {given : Answer ω}
    (h : Governed behaviour given) (occurrence : Occurrence) (world : ω) :
    preparedBy given occurrence world =
      behaviour.map (Option.map fun b => b.prepare occurrence) := by
  cases h with
  | broken fault => rfl
  | absent => rfl
  | found hGoverns =>
      simp only [preparedBy, Except.map, Option.map_some, hGoverns.prepares]

/-- Where handlers are governed by a behaviour, neither the world nor the document takes part in
rendering, and nothing is written on the side. -/
theorem Governed.renderedBy_eq {behaviour : Except Fault (Option Behaviour)} {given : Answer ω}
    (h : Governed behaviour given) (embedding : EmbeddingType) (payload : Value) (document : Text)
    (world : ω) : renderedBy given embedding payload document world =
      behaviour.map (Option.map fun b => (b.render embedding payload, [])) := by
  cases h with
  | broken fault => rfl
  | absent => rfl
  | found hGoverns =>
      simp only [renderedBy, Except.map, Option.map_some, hGoverns.renders, hGoverns.writes]

/-- After a run that passes own handles only, the operations of a handle are done by its own
handler. -/
theorem answer_own {r : Registry ω} {host : Host ω} {as : List (Action ω)}
    (hOwn : PassesOwn r as (start host)) {name : Text} {handle : Handle ω}
    (h : (r.resolve name (run r as (start host))).result = .ok (some handle)) :
    answer r name (run r as (start host)) = .ok (some fun _ => handle.handler) := by
  have hResolved : (r.resolve name (run r as (start host))).state =
      run r (as ++ [.resolve name]) (start host) := by
    rw [run_append]
    rfl
  have hHeld := (resolve_named (sound_run r host as) h).2
  have hPhases : phases (r.resolve name (run r as (start host))).state handle =
      fun _ => handle.handler := by
    funext operation
    rw [hResolved] at hHeld ⊢
    obtain ⟨target, after, hBind, hHandler, _⟩ :=
      bind_own (hOwn.append_singleton (a := .resolve name) nofun) hHeld operation
    obtain ⟨other, later, hOther, hBound, _⟩ := bind_boundHandler handle operation
      (run r (as ++ [.resolve name]) (start host))
    cases hBind.symm.trans hOther
    rw [phases, ← hBound, hHandler]
  rw [answer, h, answerOf, Except.map, Option.map_some, hPhases]

end CommandMarkup.Registry
