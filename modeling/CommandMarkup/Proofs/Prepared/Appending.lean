import CommandMarkup.Document
import CommandMarkup.Proofs.Prepared.Bundled

/-! What putting out a prepared command adds to a document, whatever the command is and wherever it
comes from. A document only grows, by what the handler wrote to it and then by one piece; if
something fails, the piece is missing and nothing else.

Main statement: `renderPrepared_appends`. -/
namespace CommandMarkup.Registry

variable {ω : Type}

/-- The piece that the result of a handler adds to a document. -/
def piece : Except Fault Value → Text
  | .ok (.text t) => t
  | .error (.reported message) => Text.escape message
  | _ => []

/-- Whether the result of a handler can be put out, and the fault if it cannot. -/
def verdict : Except Fault Value → Except Fault Bool
  | .ok (.text _) => .ok true
  | .ok output => if output.isBlank then .ok true else .error (.outputNotText output.kindName)
  | .error (.reported _) => .ok true
  | .error fault => .error fault

/-- What is added does not depend on the document that it is added to. -/
theorem putOut_eq (result : Except Fault Value) (document : Text) :
    putOut result document = (verdict result, document ++ piece result) := by
  cases result with
  | error fault =>
      cases fault
      case reported message => rfl
      all_goals simp [putOut, verdict, piece]
  | ok output =>
      cases output
      case text t => rfl
      -- Anything else is left out if it is blank and refused if it is not.
      all_goals
        simp only [putOut, appendOutput, verdict, piece, List.append_nil]
        split_ifs <;> rfl

/-- The name of the prepared command resolves, and its handler, asked to render, comes to that
result after writing that text to the document by itself. -/
def Asked (r : Registry ω) (e : Embedding) (p : Prepared) (document : Text) (s : State ω)
    (result : Except Fault Value) (written : Text) (after : State ω) : Prop :=
  ∃ handle, (r.resolve p.command s).result = .ok (some handle) ∧
    Renders (boundHandler handle .render (r.resolve p.command s).state) e.type p.payload document
      (r.resolve p.command s).state (⟨result, after⟩, written)

/-- How putting out a prepared command can end, with all that is left after it. -/
inductive Put (r : Registry ω) (e : Embedding) (mode : Text) (p : Prepared) (document : Text)
    (s : State ω) : Rendering ω → Prop where
  | declined (hMode : mode ≠ r.settings.outputMode) :
      Put r e mode p document s ⟨.ok false s, document⟩
  | literal (t : Text) (hMode : mode = r.settings.outputMode)
      (hCommand : p.command = Prepared.literalMarker) (hPayload : p.payload = .text t) :
      Put r e mode p document s ⟨.ok true s, document ++ Text.escape t⟩
  | unescapable (hMode : mode = r.settings.outputMode)
      (hCommand : p.command = Prepared.literalMarker) (hPayload : ∀ t, p.payload ≠ .text t) :
      Put r e mode p document s ⟨.error (.payloadNotText p.payload.kindName) s, document⟩
  | absent (after : State ω) (hMode : mode = r.settings.outputMode)
      (hCommand : p.command ≠ Prepared.literalMarker)
      (hResolve : r.resolve p.command s = .ok none after) :
      Put r e mode p document s ⟨.ok true after, document ++ Prepared.notFound⟩
  | broken (fault : Fault) (after : State ω) (hMode : mode = r.settings.outputMode)
      (hCommand : p.command ≠ Prepared.literalMarker)
      (hResolve : r.resolve p.command s = .error fault after) :
      Put r e mode p document s ⟨.error fault after, document⟩
  | handled (result : Except Fault Value) (written : Text) (after final : State ω)
      (hMode : mode = r.settings.outputMode) (hCommand : p.command ≠ Prepared.literalMarker)
      (hAsked : Asked r e p document s result written after) (hFinal : final.world = after.world) :
      Put r e mode p document s
        ⟨⟨verdict result, final⟩, document ++ written ++ piece result⟩

/-- Putting out a prepared command ends in one of the listed ways. The cases follow the mode, the
marker and the resolution of the name. -/
theorem put (r : Registry ω) (e : Embedding) (mode : Text) (p : Prepared) (document : Text)
    (s : State ω) : Put r e mode p document s (r.renderPrepared e mode p document s) := by
  by_cases hMode : mode = r.settings.outputMode
  case neg =>
    rw [renderPrepared, if_pos hMode]
    exact .declined hMode
  subst hMode
  cases hLiteral : p.isLiteral with
  | true =>
      have hCommand : p.command = Prepared.literalMarker := of_decide_eq_true hLiteral
      rw [renderPrepared, if_neg (not_not.mpr rfl), if_pos hLiteral]
      have hRefused : (∀ t, p.payload ≠ .text t) → Put r e r.settings.outputMode p document s
          ⟨.error (.payloadNotText p.payload.kindName) s, document⟩ := .unescapable rfl hCommand
      cases hPayload : p.payload
      case text t => exact .literal t rfl hCommand hPayload
      all_goals
        rw [hPayload] at hRefused
        refine hRefused fun t hText => ?_
        cases hText
  | false =>
      have hCommand : p.command ≠ Prepared.literalMarker := of_decide_eq_false hLiteral
      cases hResolve : r.resolve p.command s with
      | mk result resolved =>
          cases result with
          | error fault =>
              rw [renderPrepared, if_neg (not_not.mpr rfl), hLiteral, if_neg Bool.false_ne_true,
                hResolve]
              exact .broken fault resolved rfl hCommand hResolve
          | ok entry =>
              cases entry with
              | none =>
                  rw [renderPrepared, if_neg (not_not.mpr rfl), hLiteral,
                    if_neg Bool.false_ne_true, hResolve]
                  exact .absent resolved rfl hCommand hResolve
              | some handle =>
                  have hRenders :=
                    renders_boundHandler handle e.type p.payload document resolved
                  cases hRender : render handle e.type p.payload document resolved with
                  | mk outcome written =>
                      obtain ⟨final, hFinal, hWorld⟩ :=
                        renderPrepared_found hLiteral hResolve hRender
                      rw [hFinal, putOut_eq]
                      rw [hRender] at hRenders
                      apply Put.handled _ written outcome.state final rfl hCommand _ hWorld
                      refine ⟨handle, ?_, ?_⟩
                      · rw [hResolve]
                      · rw [hResolve]
                        exact hRenders

/-- However it ends, the document begins with what it was. -/
theorem Put.grows {r : Registry ω} {e : Embedding} {mode : Text} {p : Prepared}
    {document : Text} {s : State ω} {o : Rendering ω} (h : Put r e mode p document s o) :
    document <+: o.document := by
  cases h with
  | declined _ => exact List.prefix_refl document
  | literal t _ _ _ => exact List.prefix_append document _
  | unescapable _ _ _ => exact List.prefix_refl document
  | absent after _ _ _ => exact List.prefix_append document _
  | broken fault after _ _ _ => exact List.prefix_refl document
  | handled result written after final _ _ _ _ =>
      rw [List.append_assoc]
      exact List.prefix_append document _

section Segments

variable {r : Registry ω} {segment : Embedding.Segment} {rest : List Embedding.Segment}
  {document : Text} {s recognized : State ω}

/-- A fault in recognizing a segment ends the processing right after the text before it. -/
theorem processSegments_unrecognized {fault : Fault}
    (h : r.recognize segment.embedding segment.command s = ⟨.error fault, recognized⟩) :
    r.processSegments (segment :: rest) document s =
      ⟨.error fault recognized, document ++ segment.before⟩ := by
  rw [processSegments, h]

theorem processSegments_unrendered {p : Prepared} {fault : Fault} {rendered : State ω}
    {after : Text} (h : r.recognize segment.embedding segment.command s = ⟨.ok p, recognized⟩)
    (hRender : r.renderPrepared segment.embedding r.settings.outputMode p
      (document ++ segment.before) recognized = ⟨⟨.error fault, rendered⟩, after⟩) :
    r.processSegments (segment :: rest) document s = ⟨.error fault rendered, after⟩ := by
  rw [processSegments, h]
  dsimp only
  rw [hRender]

/-- A command that is put out leaves the rest of the text to what it left. -/
theorem processSegments_rendered {p : Prepared} {done : Bool} {rendered : State ω} {after : Text}
    (h : r.recognize segment.embedding segment.command s = ⟨.ok p, recognized⟩)
    (hRender : r.renderPrepared segment.embedding r.settings.outputMode p
      (document ++ segment.before) recognized = ⟨⟨.ok done, rendered⟩, after⟩) :
    r.processSegments (segment :: rest) document s =
      ⟨(r.processSegments rest after rendered).outcome.andThen
          fun more s => .ok (p :: more) s,
        (r.processSegments rest after rendered).document⟩ := by
  rw [processSegments, h]
  dsimp only
  rw [hRender]

end Segments

/-- The same for a text that is processed, as far as that goes. -/
theorem processSegments_grows (r : Registry ω) (found : List Embedding.Segment) (document : Text)
    (s : State ω) : document <+: (r.processSegments found document s).document := by
  induction found generalizing document s with
  | nil => exact List.prefix_refl document
  | cons segment rest ih =>
      have hBefore : document <+: document ++ segment.before := List.prefix_append document _
      cases hRecognize : r.recognize segment.embedding segment.command s with
      | mk result recognized =>
          cases result with
          | error fault =>
              rw [processSegments_unrecognized hRecognize]
              exact hBefore
          | ok p =>
              have hPut := (put r segment.embedding r.settings.outputMode p
                (document ++ segment.before) recognized).grows
              cases hRender : r.renderPrepared segment.embedding r.settings.outputMode p
                (document ++ segment.before) recognized with
              | mk outcome after =>
                  obtain ⟨result, rendered⟩ := outcome
                  rw [hRender] at hPut
                  cases result with
                  | error fault =>
                      rw [processSegments_unrendered hRecognize hRender]
                      exact hBefore.trans hPut
                  | ok done =>
                      rw [processSegments_rendered hRecognize hRender]
                      exact (hBefore.trans hPut).trans (ih after rendered)

/-- Processing a text only adds to the document, even if it ends in a fault. -/
theorem process_grows (r : Registry ω) (es : List Embedding) (t document : Text) (s : State ω) :
    document <+: (r.process es t document s).document := by
  have hSegments := processSegments_grows r (Embedding.segments es t).1 document s
  rw [process]
  split
  · exact hSegments.trans (List.prefix_append _ _)
  · exact hSegments

/-- Putting out a prepared command ends in one of the listed ways, with any mode and document, in
any state and for any command and payload. A document is never taken back, by a single command or by
all the commands of a text, also where one of them fails. -/
theorem renderPrepared_appends (r : Registry ω) :
    (∀ (e : Embedding) (mode : Text) (p : Prepared) (document : Text) (s : State ω),
      Put r e mode p document s (r.renderPrepared e mode p document s) ∧
      document <+: (r.renderPrepared e mode p document s).document) ∧
    ∀ (es : List Embedding) (t document : Text) (s : State ω),
      document <+: (r.process es t document s).document := by
  constructor
  · intro e mode p document s
    exact ⟨put r e mode p document s, (put r e mode p document s).grows⟩
  · exact process_grows r

end CommandMarkup.Registry
