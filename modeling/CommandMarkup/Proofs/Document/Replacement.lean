import CommandMarkup.Document
import CommandMarkup.Proofs.Embedding.Segmentation
import CommandMarkup.Proofs.Prepared.Purity

/-! A document is put out piece by piece. What stands between the commands of a text is kept, each
command is replaced by what it alone comes to, and where handlers are pure, replacing the handler of
one name changes nothing but the pieces of that name.

Main statement: `process_replaces`. -/
namespace CommandMarkup.Registry

open CommandMarkup.Embedding (Segment segments Divides)

variable {ω : Type}

/-- What stands before each command, followed by what the command is replaced by. -/
def weave (found : List Segment) (outputs : List Text) : Text :=
  (List.zipWith (fun segment output => segment.before ++ output) found outputs).flatten

/-- The segments are put out one after another. Each is recognized and rendered in the state that
the earlier ones leave, and adds its own output to the document and nothing else. -/
inductive Replaced (r : Registry ω) :
    List Segment → Text → State ω → List (Prepared × Text) → State ω → Prop where
  | done (document : Text) (s : State ω) : Replaced r [] document s [] s
  | next {segment : Segment} {rest : List Segment} {document output : Text} {p : Prepared}
      {s recognized rendered final : State ω} {more : List (Prepared × Text)}
      (hRecognize : r.recognize segment.embedding segment.command s = .ok p recognized)
      (hRender : r.renderPrepared segment.embedding r.settings.outputMode p
        (document ++ segment.before) recognized =
          ⟨.ok true rendered, document ++ segment.before ++ output⟩)
      (hRest : Replaced r rest (document ++ segment.before ++ output) rendered more final) :
      Replaced r (segment :: rest) document s ((p, output) :: more) final

/-- Processing the segments is putting the pieces one after the other in their places, with the text
before each. -/
theorem Replaced.processSegments_eq {r : Registry ω} {found : List Segment} {document : Text}
    {s final : State ω} {pieces : List (Prepared × Text)}
    (h : Replaced r found document s pieces final) :
    r.processSegments found document s =
      ⟨.ok (pieces.map Prod.fst) final, document ++ weave found (pieces.map Prod.snd)⟩ := by
  induction h with
  | done document s =>
      rw [processSegments, weave, List.zipWith_nil_left, List.flatten_nil, List.append_nil]
      rfl
  | next hRecognize hRender _ ih =>
      rw [processSegments_rendered hRecognize hRender, ih, Outcome.ok_andThen]
      simp only [weave, List.map_cons, List.zipWith_cons_cons, List.flatten_cons, List.append_assoc]

/-- The answer for a name whose handler, if there is one, fails only with errors to be shown when it
prepares the occurrence or renders what it prepared, renders to text or to nothing, and writes
nothing itself. -/
inductive Agreeable (occurrence : Occurrence) : Answer ω → Prop where
  | absent : Agreeable occurrence (.ok none)
  | found {phases : Phases ω}
      (hPrepare : ∀ world fault,
        ((phases .prepare).prepare occurrence world).result = .error fault →
        ∃ message, fault = .reported message)
      (hRender : ∀ world payload,
        ((phases .prepare).prepare occurrence world).result = .ok payload →
        ∀ document later,
          verdict ((phases .render).render occurrence.embedding payload document later).1.result =
            .ok true ∧
          ((phases .render).render occurrence.embedding payload document later).2 = []) :
      Agreeable occurrence (.ok (some phases))

/-- The calls in the segments are answered agreeably. -/
def AnswersAgreeably (r : Registry ω) (found : List Segment) (s : State ω) : Prop :=
  ∀ segment ∈ found, ∀ name occurrence,
    Calls segment.embedding segment.command name occurrence →
    Settled (Agreeable occurrence) r name s

/-- The calls in the segments are answered by pure handlers, or by none, as the behaviours of their
names say. -/
def AnswersPurely (b : Text → Except Fault (Option Behaviour)) (r : Registry ω)
    (found : List Segment) (s : State ω) : Prop :=
  ∀ segment ∈ found, ∀ name occurrence,
    Calls segment.embedding segment.command name occurrence → Settled (Governed (b name)) r name s

section Session

variable {r : Registry ω} {as : List (Action ω)} {s : State ω} {e : Embedding}
  {command name : Text} {occurrence : Occurrence}

theorem eq_ok_of_result {σ α : Type} {o : Outcome σ α} {a : α} (h : o.result = .ok a) :
    o = .ok a o.state := by
  obtain ⟨result, state⟩ := o
  cases h
  rfl

/-- A name that a command calls answers after the recognition as it did before. -/
theorem answer_recognized (hSound : Sound r as s) (hCall : Calls e command name occurrence)
    {given : Option (Phases ω)} (h : answer r name s = .ok given) :
    answer r name (r.recognize e command s).state = .ok given := by
  have hLower := hCall.lower_eq
  obtain ⟨callText, content, call, hSplit, hParse, rfl, _⟩ := hCall
  obtain ⟨entry, hResolve⟩ : ∃ entry, (r.resolve call.name s).result = .ok entry := by
    cases hResult : (r.resolve call.name s).result with
    | error fault =>
        rw [answer, hResult] at h
        cases h
    | ok entry => exact ⟨entry, rfl⟩
  obtain ⟨rest, hSteps⟩ : ∃ rest, (Action.recognize e command).steps r s =
      .resolve call.name :: rest := by
    simp only [Action.steps, hSplit, hParse, asks]
    exact ⟨_, rfl⟩
  have hPassed : ∀ handle, (Action.recognize e command).passed = some handle →
      s.handles.get? handle.name = some (some handle) := by
    intro handle hPassed
    cases hPassed
  have hSettled := settled_found hSound hSteps hPassed (settled_resolved hResolve)
  have hAnswer := settled_answer hSettled
  rw [Action.after] at hAnswer
  rw [hAnswer, h]

/-- What a handler renders to text, to nothing or to an error is put out, and is all that is
added. -/
theorem renderPrepared_answered {p : Prepared} (hPlain : p.isLiteral = false) {phases : Phases ω}
    (hAnswer : answer r p.command s = .ok (some phases)) (document : Text)
    (hRender : ∀ world,
      verdict ((phases .render).render e.type p.payload document world).1.result = .ok true ∧
      ((phases .render).render e.type p.payload document world).2 = []) :
    ∃ output rendered, r.renderPrepared e r.settings.outputMode p document s =
      ⟨.ok true rendered, document ++ output⟩ := by
  obtain ⟨hVerdict, hWritten⟩ := hRender (r.resolve p.command s).state.world
  obtain ⟨rendered, hRendered⟩ := renderPrepared_result r e document s hPlain
  rw [rendition, hAnswer] at hRendered
  simp only [renderedBy, Except.map, Option.map_some, renderedFrom, hVerdict] at hRendered
  exact ⟨_, rendered, hRendered⟩

/-- A command that is answered agreeably is recognized, and put out right after that. -/
theorem command_replaced (hSound : Sound r as s) (hSplit : (e.split? command).isSome = true)
    (hAgreeable : ∀ name occurrence, Calls e command name occurrence →
      Settled (Agreeable occurrence) r name s) (document : Text) :
    ∃ p output rendered, r.recognize e command s = .ok p (r.recognize e command s).state ∧
      r.renderPrepared e r.settings.outputMode p document (r.recognize e command s).state =
        ⟨.ok true rendered, document ++ output⟩ := by
  have hResult := recognize_result r e command s
  have hLiteral : ∀ t, (r.recognize e command s).result = .ok (.literal t e.type) →
      ∃ p output rendered, r.recognize e command s = .ok p (r.recognize e command s).state ∧
        r.renderPrepared e r.settings.outputMode p document (r.recognize e command s).state =
          ⟨.ok true rendered, document ++ output⟩ := by
    intro t h
    exact ⟨_, _, _, eq_ok_of_result h, renderPrepared_literal r e t e.type document _⟩
  by_cases hCalls : ∃ name occurrence, Calls e command name occurrence
  case neg =>
    rw [recognitionBy_uncalled fun name occurrence hCall => hCalls ⟨name, occurrence, hCall⟩,
      if_pos hSplit] at hResult
    exact hLiteral _ hResult
  obtain ⟨name, occurrence, hCall⟩ := hCalls
  have hSettled := hAgreeable name occurrence hCall
  rw [← hCall.lower_eq] at hSettled
  have hAnswer := settled_answer hSettled
  have hType : occurrence.embedding = e.type := by
    obtain ⟨_, _, _, _, _, _, rfl⟩ := hCall
    rfl
  rw [recognitionBy_calls hCall, preparation] at hResult
  cases hGiven : answer r name s with
  | error fault =>
      rw [hGiven] at hAnswer
      cases hAnswer
  | ok given =>
      rw [hGiven] at hAnswer hResult
      cases hAnswer with
      | absent => exact hLiteral _ hResult
      | @found phases hPrepare hRender =>
          simp only [preparedBy, Except.map, Option.map_some] at hResult
          cases hPrepared : ((phases .prepare).prepare occurrence
            (r.resolve name s).state.world).result with
          | error fault =>
              obtain ⟨message, rfl⟩ := hPrepare _ fault hPrepared
              rw [hPrepared] at hResult
              exact hLiteral _ hResult
          | ok payload =>
              rw [hPrepared] at hResult
              -- The handlers that prepared the command are asked again.
              have hAgain := answer_recognized hSound hCall hGiven
              obtain ⟨output, rendered, hRendered⟩ := renderPrepared_answered
                (p := ⟨name, payload, e.type⟩) (e := e) (hCall.isLiteral_eq payload e.type) hAgain
                document fun world => hType ▸ hRender _ payload hPrepared document world
              exact ⟨_, output, rendered, eq_ok_of_result hResult, hRendered⟩

section Piece

variable {p : Prepared} {recognized rendered : State ω} {mode document after : Text} {done : Bool}

/-- Putting out a segment is two actions. -/
theorem after_piece (hRecognize : r.recognize e command s = .ok p recognized)
    (hRender : r.renderPrepared e mode p document recognized = ⟨.ok done rendered, after⟩) :
    (Action.recognize e command).after r s = recognized ∧
      (Action.renderPrepared e mode p document).after r recognized = rendered := by
  rw [Action.after, Action.after, hRecognize, hRender]
  exact ⟨rfl, rfl⟩

/-- The table of handles stays sound while one command is recognized and put out. Neither registers
anything. -/
theorem sound_piece (hSound : Sound r as s)
    (hRecognize : r.recognize e command s = .ok p recognized)
    (hRender : r.renderPrepared e mode p document recognized = ⟨.ok done rendered, after⟩) :
    Sound r as recognized ∧ Sound r as rendered := by
  obtain ⟨rfl, rfl⟩ := after_piece hRecognize hRender
  have hNext := sound_action hSound (a := .recognize e command) nofun
  exact ⟨hNext, sound_action hNext nofun⟩

/-- What is settled before a segment is put out is settled on the way and after it. -/
theorem settled_piece {A : Answer ω → Prop} (hSound : Sound r as s)
    (hRecognize : r.recognize e command s = .ok p recognized)
    (hRender : r.renderPrepared e mode p document recognized = ⟨.ok done rendered, after⟩)
    (h : Settled A r name s) : Settled A r name recognized ∧ Settled A r name rendered := by
  have hSoundNext := (sound_piece hSound hRecognize hRender).1
  obtain ⟨rfl, rfl⟩ := after_piece hRecognize hRender
  have hNext := settled_action hSound (a := .recognize e command) nofun nofun h
  exact ⟨hNext, settled_action hSoundNext nofun nofun hNext⟩

end Piece

/-- Every command that was found is replaced by a piece: recognizing it comes to something, and so
does putting that out. -/
theorem exists_replaced {found : List Segment}
    (hSplit : ∀ segment ∈ found, (segment.embedding.split? segment.command).isSome = true)
    (hSound : Sound r as s) (hAgreeable : AnswersAgreeably r found s) (document : Text) :
    ∃ pieces final, Replaced r found document s pieces final := by
  induction found generalizing s document with
  | nil => exact ⟨[], s, .done document s⟩
  | cons segment rest ih =>
      obtain ⟨p, output, rendered, hRecognize, hRender⟩ := command_replaced hSound
        (hSplit segment List.mem_cons_self)
        (fun name occurrence => hAgreeable segment List.mem_cons_self name occurrence)
        (document ++ segment.before)
      have hRest : AnswersAgreeably r rest rendered := by
        intro other hOther name occurrence hCall
        have hBefore := hAgreeable other (List.mem_cons_of_mem _ hOther) name occurrence hCall
        exact (settled_piece hSound hRecognize hRender hBefore).2
      obtain ⟨more, final, hMore⟩ :=
        ih (fun other hOther => hSplit other (List.mem_cons_of_mem _ hOther))
          (sound_piece hSound hRecognize hRender).2 hRest (document ++ segment.before ++ output)
      exact ⟨(p, output) :: more, final, .next hRecognize hRender hMore⟩

end Session

/-- What pure handlers make of a command. -/
def pureRecognition (b : Text → Except Fault (Option Behaviour)) (e : Embedding) (command : Text) :
    Except Fault Prepared :=
  recognitionBy (fun name occurrence => (b name).map (Option.map fun b => b.prepare occurrence))
    e command

/-- What pure handlers add to a document for a prepared command. -/
def pureOutput (b : Text → Except Fault (Option Behaviour)) (embedding : EmbeddingType)
    (p : Prepared) : Text :=
  if p.isLiteral then
    match p.payload with
    | .text t => Text.escape t
    | _ => []
  else
    (renderedFrom
      ((b p.command).map (Option.map fun b => (b.render embedding p.payload, [])))).2

/-- Where handlers are pure, a piece depends on nothing but the command. -/
theorem piece_pure {r : Registry ω} {as : List (Action ω)} {s recognized rendered : State ω}
    (hSound : Sound r as s) {b : Text → Except Fault (Option Behaviour)} {e : Embedding}
    {command : Text} (hPure : ∀ name occurrence, Calls e command name occurrence →
      Settled (Governed (b name)) r name s)
    {p : Prepared} {document output : Text}
    (hRecognize : r.recognize e command s = .ok p recognized)
    (hRender : r.renderPrepared e r.settings.outputMode p document recognized =
      ⟨.ok true rendered, document ++ output⟩) :
    pureRecognition b e command = .ok p ∧ output = pureOutput b e.type p := by
  have hResult : recognitionBy (preparation r s) e command = .ok p := by
    rw [← recognize_result, hRecognize]
    rfl
  have hSame : pureRecognition b e command = recognitionBy (preparation r s) e command := by
    apply recognitionBy_congr
    intro name occurrence hCall
    have hSettled := hPure name occurrence hCall
    rw [← hCall.lower_eq] at hSettled
    rw [preparation, (settled_answer hSettled).preparedBy_eq, hCall.lower_eq]
  refine ⟨hSame.trans hResult, ?_⟩
  rcases recognitionBy_cases hResult with ⟨t, rfl⟩ | ⟨hPlain, occurrence, hCall⟩
  · rw [renderPrepared_literal] at hRender
    exact (List.append_cancel_left (congrArg Rendering.document hRender)).symm
  · have hSettled := (settled_piece hSound hRecognize hRender (hPure _ occurrence hCall)).1
    rw [← hCall.lower_eq] at hSettled
    obtain ⟨final, hFinal⟩ := renderPrepared_result r e document recognized hPlain
    rw [hRender, rendition, (settled_answer hSettled).renderedBy_eq, hCall.lower_eq] at hFinal
    rw [pureOutput, hPlain, if_neg Bool.false_ne_true]
    exact List.append_cancel_left (congrArg Rendering.document hFinal)

section Two

variable {ω' : Type} {r : Registry ω} {r' : Registry ω'} {as : List (Action ω)}
  {as' : List (Action ω')} {b b' : Text → Except Fault (Option Behaviour)} {key : Text}

/-- Where two families of behaviours differ in one name, only commands of that name come to
something else. -/
theorem piece_eq (hSame : ∀ name, name ≠ key → b name = b' name) {e : Embedding} {command : Text}
    (hOther : ∀ occurrence, ¬ Calls e command key occurrence) {p p' : Prepared}
    (hPrepared : pureRecognition b e command = .ok p)
    (hPrepared' : pureRecognition b' e command = .ok p') :
    p = p' ∧ pureOutput b e.type p = pureOutput b' e.type p' := by
  have hNames : ∀ name occurrence, Calls e command name occurrence → b name = b' name := by
    intro name occurrence hCall
    apply hSame
    intro hKey
    subst hKey
    exact hOther occurrence hCall
  have hRecognition : pureRecognition b e command = pureRecognition b' e command := by
    apply recognitionBy_congr
    intro name occurrence hCall
    rw [hNames name occurrence hCall]
  rw [hRecognition, hPrepared'] at hPrepared
  cases hPrepared
  refine ⟨rfl, ?_⟩
  rcases recognitionBy_cases hPrepared' with ⟨t, rfl⟩ | ⟨hPlain, occurrence, hCall⟩
  · rfl
  · rw [pureOutput, pureOutput, hPlain, hNames _ occurrence hCall]

/-- Two sessions whose handlers are pure and differ in one name put the same pieces in, but for the
commands of that name. -/
theorem Replaced.localized {found : List Segment} {document document' : Text}
    {s final : State ω} {s' final' : State ω'} {pieces pieces' : List (Prepared × Text)}
    (h : Replaced r found document s pieces final)
    (h' : Replaced r' found document' s' pieces' final') (hSound : Sound r as s)
    (hSound' : Sound r' as' s') (hPure : AnswersPurely b r found s)
    (hPure' : AnswersPurely b' r' found s') (hSame : ∀ name, name ≠ key → b name = b' name) :
    ∀ (i : Nat) (segment : Segment), found[i]? = some segment →
      (∀ occurrence, ¬ Calls segment.embedding segment.command key occurrence) →
      pieces[i]? = pieces'[i]? := by
  induction h generalizing document' s' pieces' with
  | done document s =>
      intro i segment hGet
      cases hGet
  | @next segment rest document output p s recognized rendered final more hRecognize hRender _ ih =>
      cases h' with
      | next hRecognize' hRender' hRest' =>
          intro i other hGet hOther
          cases i with
          | zero =>
              cases hGet
              obtain ⟨hPrepared, hOutput⟩ := piece_pure hSound
                (hPure segment List.mem_cons_self) hRecognize hRender
              obtain ⟨hPrepared', hOutput'⟩ := piece_pure hSound'
                (hPure' segment List.mem_cons_self) hRecognize' hRender'
              obtain ⟨rfl, hEq⟩ := piece_eq hSame hOther hPrepared hPrepared'
              rw [List.getElem?_cons_zero, List.getElem?_cons_zero, hOutput, hOutput', hEq]
          | succ i =>
              apply ih hRest' (sound_piece hSound hRecognize hRender).2
                (sound_piece hSound' hRecognize' hRender').2 _ _ i other hGet hOther
              · intro later hLater name occurrence hCall
                have hBefore := hPure later (List.mem_cons_of_mem _ hLater) name occurrence hCall
                exact (settled_piece hSound hRecognize hRender hBefore).2
              · intro later hLater name occurrence hCall
                have hBefore := hPure' later (List.mem_cons_of_mem _ hLater) name occurrence hCall
                exact (settled_piece hSound' hRecognize' hRender' hBefore).2

end Two

/-- What processing a text comes to, in the state that a run leads to. -/
structure Replacing (r : Registry ω) (host : Host ω) (as : List (Action ω)) (es : List Embedding)
    (t : Text) : Prop where
  divides : ∀ found tail, Divides es t found tail ↔ segments es t = (found, tail)
  keeps : (segments es t).1.flatMap (fun segment => segment.before ++ segment.command) ++
    (segments es t).2 = t
  nonempty : ∀ segment ∈ (segments es t).1, segment.command ≠ []
  /-- Where all calls are answered agreeably, the document grows by the text with its commands
  replaced, each by what it comes to in the state that the earlier ones leave. -/
  replaces : AnswersAgreeably r (segments es t).1 (run r as (start host)) → ∀ document,
    ∃ pieces final,
      Replaced r (segments es t).1 document (run r as (start host)) pieces final ∧
      r.process es t document (run r as (start host)) =
        ⟨.ok (pieces.map Prod.fst) final,
          document ++ weave (segments es t).1 (pieces.map Prod.snd) ++ (segments es t).2⟩
  localized : ∀ {ω' : Type} (r' : Registry ω') (host' : Host ω') (as' : List (Action ω'))
    (b b' : Text → Except Fault (Option Behaviour)) (key : Text),
    AnswersPurely b r (segments es t).1 (run r as (start host)) →
    AnswersPurely b' r' (segments es t).1 (run r' as' (start host')) →
    (∀ name, name ≠ key → b name = b' name) →
    ∀ document document' pieces pieces' final final',
      Replaced r (segments es t).1 document (run r as (start host)) pieces final →
      Replaced r' (segments es t).1 document' (run r' as' (start host')) pieces' final' →
      ∀ (i : Nat) (segment : Segment), (segments es t).1[i]? = some segment →
        (∀ occurrence, ¬ Calls segment.embedding segment.command key occurrence) →
        pieces[i]? = pieces'[i]?

/-- A text is processed command by command, whatever the embeddings are and whatever the registry
was used for before. -/
theorem process_replaces (r : Registry ω) (host : Host ω) (as : List (Action ω))
    (es : List Embedding) (t : Text) : Replacing r host as es t where
  divides := fun found tail => Embedding.divides_iff
  keeps := Embedding.flatten_segments es t
  nonempty := by
    intro segment hMem
    obtain ⟨callText, content, hSplit⟩ := Embedding.split?_of_mem_segments hMem
    rw [(Embedding.split?_eq_some_iff.mp hSplit).1]
    exact Embedding.enclose_ne_nil _ _ _
  replaces := by
    intro hAgreeable document
    have hSplit : ∀ segment ∈ (segments es t).1,
        (segment.embedding.split? segment.command).isSome = true := by
      intro segment hMem
      obtain ⟨callText, content, hSplit⟩ := Embedding.split?_of_mem_segments hMem
      rw [hSplit]
      rfl
    obtain ⟨pieces, final, hReplaced⟩ :=
      exists_replaced hSplit (sound_run r host as) hAgreeable document
    refine ⟨pieces, final, hReplaced, ?_⟩
    rw [process, hReplaced.processSegments_eq]
    rfl
  localized := by
    intro ω' r' host' as' b b' key hPure hPure' hSame document document' pieces pieces' final final'
      hReplaced hReplaced'
    exact hReplaced.localized hReplaced' (sound_run r host as) (sound_run r' host' as') hPure hPure'
      hSame

/-- One command replaced by an error, beside one that stays. -/
theorem process_replaces_refused :
    let echo : Handler Unit := .ofPrepare ['E'] fun occurrence _ => .ok (.text occurrence.content)
    let refuse : Handler Unit := .ofPrepare ['R'] fun _ _ => .error (.reported ['<'])
    let r : Registry Unit := { environment := ⟨fun name => .missing name⟩ }
    let as := fun handler : Handler Unit =>
      [Action.register ['x'] (.ofHandler handler), .register ['Y'] (.ofHandler echo)]
    let session := fun handler : Handler Unit => run r (as handler) (start ⟨(), [], [], 0⟩)
    let es : List Embedding := [.inline, .block]
    let t : Text := "a%x(1)%b#y(2)#c".toList
    let found : List Segment :=
      [⟨['a'], .inline, "%x(1)%".toList⟩, ⟨['b'], .block, "#y(2)#".toList⟩]
    segments es t = (found, ['c']) ∧
      (∀ handler ∈ [echo, refuse], AnswersAgreeably r found (session handler)) ∧
      ∃ pieces pieces' final final',
        Replaced r found [] (session echo) pieces final ∧
        Replaced r found [] (session refuse) pieces' final' ∧
        r.process es t [] (session echo) = ⟨.ok (pieces.map Prod.fst) final,
          weave found (pieces.map Prod.snd) ++ ['c']⟩ ∧
        r.process es t [] (session refuse) = ⟨.ok (pieces'.map Prod.fst) final',
          weave found (pieces'.map Prod.snd) ++ ['c']⟩ ∧
        pieces[1]? = pieces'[1]? := by
  intro echo refuse r as session es t found
  have hFound : segments es t = (found, ['c']) := by
    rw [Embedding.segments_of_some (s := ⟨['a'], .inline, "%x(1)%".toList⟩)
        (show _ = some (_, "b#y(2)#c".toList) by decide),
      Embedding.segments_of_some (s := ⟨['b'], .block, "#y(2)#".toList⟩)
        (show _ = some (_, ['c']) by decide),
      Embedding.segments_of_none (by decide)]
  have hX : Calls .inline "%x(1)%".toList ['x'] ⟨.inline, [], ['1']⟩ :=
    ⟨['x'], ['1'], ⟨['x'], []⟩, by decide, by decide, rfl, rfl⟩
  have hY : Calls .block "#y(2)#".toList ['y'] ⟨.block, [], ['2']⟩ :=
    ⟨['y'], ['2'], ⟨['y'], []⟩, by decide, by decide, rfl, rfl⟩
  have hHeldX : ∀ handler, (session handler).handles.get? ['x'] =
      some (some ⟨['x'], registeredModule, handler, 0⟩) := fun _ => rfl
  have hHeldY : ∀ handler, (session handler).handles.get? ['y'] =
      some (some ⟨['y'], registeredModule, echo, 1⟩) := fun _ => rfl
  -- What holds of the two calls holds of every call in the segments.
  have hCalls : ∀ P : Text → Occurrence → Prop, P ['x'] ⟨.inline, [], ['1']⟩ →
      P ['y'] ⟨.block, [], ['2']⟩ → ∀ segment ∈ found, ∀ name occurrence,
      Calls segment.embedding segment.command name occurrence → P name occurrence := by
    intro P hPx hPy segment hMem name occurrence hCall
    rcases List.mem_pair.mp hMem with rfl | rfl
    · obtain ⟨rfl, rfl⟩ := hX.unique hCall
      exact hPx
    · obtain ⟨rfl, rfl⟩ := hY.unique hCall
      exact hPy
  have hEcho : ∀ occurrence, Agreeable occurrence (.ok (some fun _ => echo)) := by
    intro occurrence
    refine .found nofun ?_
    intro world payload hPayload document later
    cases hPayload
    exact ⟨rfl, rfl⟩
  have hRefuse : ∀ occurrence, Agreeable occurrence (.ok (some fun _ => refuse)) := by
    intro occurrence
    refine .found ?_ nofun
    intro world fault hFault
    cases hFault
    exact ⟨_, rfl⟩
  have hAgreeable : ∀ handler, (∀ occurrence, Agreeable occurrence (.ok (some fun _ => handler))) →
      AnswersAgreeably r found (session handler) := by
    intro handler hHandler
    apply hCalls fun name occurrence => Settled (Agreeable occurrence) r name (session handler)
    · exact (settled_known (hHeldX handler)).mpr (hHandler _)
    · exact (settled_known (hHeldY handler)).mpr (hEcho _)
  let echoes : Behaviour := ⟨fun occurrence => .ok (.text occurrence.content), fun _ => .ok⟩
  let refuses : Behaviour := ⟨fun _ => .error (.reported ['<']), fun _ => .ok⟩
  have hEchoes : echoes.Governs fun _ => echo :=
    ⟨fun _ _ => rfl, fun _ _ _ _ => rfl, fun _ _ _ _ => rfl⟩
  have hRefuses : refuses.Governs fun _ => refuse :=
    ⟨fun _ _ => rfl, fun _ _ _ _ => rfl, fun _ _ _ _ => rfl⟩
  have hPure : AnswersPurely (fun _ => .ok (some echoes)) r found (session echo) := by
    apply hCalls fun name _ => Settled (Governed (.ok (some echoes))) r name (session echo)
    · exact (settled_known (hHeldX echo)).mpr (.found hEchoes)
    · exact (settled_known (hHeldY echo)).mpr (.found hEchoes)
  have hPure' : AnswersPurely (fun name => .ok (some (if name = ['x'] then refuses else echoes))) r
      found (session refuse) := by
    apply hCalls fun name _ => Settled
      (Governed (.ok (some (if name = ['x'] then refuses else echoes)))) r name (session refuse)
    · exact (settled_known (hHeldX refuse)).mpr (.found hRefuses)
    · exact (settled_known (hHeldY refuse)).mpr (.found hEchoes)
  have hReplacing := process_replaces r ⟨(), [], [], 0⟩ (as echo) es t
  have hReplacing' := process_replaces r ⟨(), [], [], 0⟩ (as refuse) es t
  have hReplaces := hReplacing.replaces
  have hReplaces' := hReplacing'.replaces
  have hLocalized := hReplacing.localized r ⟨(), [], [], 0⟩ (as refuse)
  rw [hFound] at hReplaces hReplaces' hLocalized
  obtain ⟨pieces, final, hPieces, hProcess⟩ := hReplaces (hAgreeable echo hEcho) []
  obtain ⟨pieces', final', hPieces', hProcess'⟩ := hReplaces' (hAgreeable refuse hRefuse) []
  refine ⟨hFound, ?_, pieces, pieces', final, final', hPieces, hPieces', hProcess, hProcess', ?_⟩
  · intro handler hMem
    rcases List.mem_pair.mp hMem with rfl | rfl
    · exact hAgreeable echo hEcho
    · exact hAgreeable refuse hRefuse
  · apply hLocalized _ _ ['x'] hPure hPure' _ [] [] pieces pieces' final final' hPieces hPieces'
      1 _ rfl
    · intro occurrence hCall
      cases (hY.unique hCall).1
    · intro name hName
      rw [if_neg hName]

end CommandMarkup.Registry
