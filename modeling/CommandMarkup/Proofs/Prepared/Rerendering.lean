import CommandMarkup.Handler.Markup
import CommandMarkup.Proofs.Prepared.Purity

/-! Putting a command out through another embedding than the one it was recognized by. A prepared
command keeps how it was embedded, but that is never looked at: the handler renders for the type of
the embedding that puts the command out.

Main statement: `recognize_rerenders`, and `rerenders_by_type` for a command that comes out in two
ways. -/
namespace CommandMarkup

/-- A handler that prepares its content as it is and finds the markup when it renders. -/
def Handler.wrapping {ω : Type} : Handler ω where
  className := "WrapCommand".toList
  prepare := fun occurrence world => ⟨.ok (.text occurrence.content), world⟩
  render := fun embedding payload _ world =>
    match payload with
    | .text t => (⟨.ok (.text (wrap embedding none (Text.escape t))), world⟩, [])
    | payload => (⟨.ok payload, world⟩, [])

namespace Registry

variable {ω : Type} {r : Registry ω} {p : Prepared} {document : Text} {s : State ω}

/-- The handler that would render the command, if its name resolves to one, does the same for both
types. -/
def RendersAlike (r : Registry ω) (p : Prepared) (document : Text) (s : State ω)
    (type other : EmbeddingType) : Prop :=
  ∀ phases, answer r p.command s = .ok (some phases) →
    (phases .render).render type p.payload document (r.resolve p.command s).state.world =
      (phases .render).render other p.payload document (r.resolve p.command s).state.world

/-- Where the handler renders the same for two types of embedding, so does the registry. -/
theorem render_congr {handle : Handle ω} {type other : EmbeddingType} {payload : Value}
    (h : (boundHandler handle .render s).render type payload document s.world =
      (boundHandler handle .render s).render other payload document s.world) :
    render handle type payload document s = render handle other payload document s := by
  obtain ⟨target, after, hBind, hHandler, hWorld⟩ := bind_boundHandler handle .render s
  rw [← hHandler, ← hWorld] at h
  rw [render, render, hBind, Outcome.ok]
  dsimp only
  rw [h]

/-- Of the embedding that puts a command out nothing counts but what the handler makes of its
type. -/
theorem renderPrepared_congr {e f : Embedding}
    (h : p.isLiteral = false → RendersAlike r p document s e.type f.type) (mode : Text) :
    r.renderPrepared e mode p document s = r.renderPrepared f mode p document s := by
  rw [renderPrepared, renderPrepared]
  by_cases hMode : mode ≠ r.settings.outputMode
  · rw [if_pos hMode, if_pos hMode]
  · rw [if_neg hMode, if_neg hMode]
    cases hLiteral : p.isLiteral with
    | true => rfl
    | false =>
        rw [if_neg Bool.false_ne_true, if_neg Bool.false_ne_true]
        cases hResolve : r.resolve p.command s with
        | mk result resolved =>
            cases result with
            | error fault => rfl
            | ok entry =>
                cases entry with
                | none => rfl
                | some handle =>
                    have hAnswer : answer r p.command s = .ok (some (phases resolved handle)) := by
                      rw [answer, hResolve]
                      rfl
                    have hAlike := h hLiteral _ hAnswer
                    rw [hResolve] at hAlike
                    dsimp only
                    rw [render_congr hAlike]

/-- Whatever a command is recognized as keeps the type of its embedding. -/
theorem recognizedFrom_embedding {name : Text} {type : EmbeddingType}
    {prepared : Except Fault (Option (Except Fault Value))}
    (h : recognizedFrom name type prepared = .ok p) : p.embedding = type := by
  rw [recognizedFrom.eq_def] at h
  split at h <;> cases h <;> rfl

/-- A prepared command keeps the type of the embedding that recognized it. -/
theorem recognize_embedding {e : Embedding} {command : Text}
    (h : (r.recognize e command s).result = .ok p) : p.embedding = e.type := by
  rw [recognize_result, recognitionBy.eq_def] at h
  split at h
  · cases h
  · split at h
    · cases h
      rfl
    · exact recognizedFrom_embedding h

/-- A command that was recognized by one embedding and is put out by another, whenever that is. The
handler renders for the type of the other one, and so the first would have put out the same if the
types are equal, if no handler takes part, or if the handler does not tell the types apart. -/
theorem recognize_rerenders {e : Embedding} {command : Text}
    (h : (r.recognize e command s).result = .ok p) :
    p.embedding = e.type ∧ ∀ (f : Embedding) (document : Text) (later : State ω),
      (p.isLiteral = false → ∃ final, r.renderPrepared f r.settings.outputMode p document later =
        ⟨⟨(renderedFrom (rendition r later p.command f.type p.payload document)).1, final⟩,
          document ++
            (renderedFrom (rendition r later p.command f.type p.payload document)).2⟩) ∧
      (p.isLiteral = true ∨ f.type = p.embedding ∨
          RendersAlike r p document later f.type p.embedding →
        ∀ mode, r.renderPrepared f mode p document later =
          r.renderPrepared e mode p document later) := by
  have hEmbedding := recognize_embedding h
  refine ⟨hEmbedding, ?_⟩
  intro f document later
  refine ⟨renderPrepared_result r f document later, ?_⟩
  intro hCase mode
  refine renderPrepared_congr ?_ mode
  intro hPlain phases hAnswer
  rw [hEmbedding] at hCase
  rcases hCase with hLiteral | hType | hAlike
  · rw [hPlain] at hLiteral
    cases hLiteral
  · rw [hType]
  · exact hAlike phases hAnswer

/-- A block command that the inline embedding puts out. -/
theorem recognize_rerenders_block :
    let r : Registry Unit := { environment := ⟨fun name => .missing name⟩ }
    let s := run r [.register "wrap".toList (.ofHandler .wrapping)] (start ⟨(), [], [], 0⟩)
    let p : Prepared := ⟨"wrap".toList, .text ['x'], .block⟩
    (r.recognize .block "#Wrap(x)#".toList s).result = .ok p ∧
      (∃ final, r.renderPrepared .inline "xhtml".toList p [] s = ⟨⟨.ok true, final⟩, ['x']⟩) ∧
      ∀ f : Embedding, f.type = .block → ∀ mode,
        r.renderPrepared f mode p [] s = r.renderPrepared .block mode p [] s := by
  intro r s p
  have hResult : (r.recognize .block "#Wrap(x)#".toList s).result = .ok p := rfl
  obtain ⟨_, hRendered⟩ := recognize_rerenders hResult
  refine ⟨hResult, (hRendered .inline [] s).1 rfl, ?_⟩
  intro f hType
  exact (hRendered f [] s).2 (.inr (.inl hType))

/-- One prepared command comes out with an element around it and without, as the embeddings differ
that put it out and not as it was embedded. -/
theorem rerenders_by_type :
    let r : Registry Unit := { environment := ⟨fun name => .missing name⟩ }
    let s := run r [.register "wrap".toList (.ofHandler .wrapping)] (start ⟨(), [], [], 0⟩)
    let p : Prepared := ⟨"wrap".toList, .text ['x'], .inline⟩
    (r.recognize .inline "%wrap(x)%".toList s).result = .ok p ∧
      (r.renderPrepared .inline r.settings.outputMode p [] s).document = ['x'] ∧
      (r.renderPrepared .block r.settings.outputMode p [] s).document = "<div>x</div>".toList :=
  ⟨rfl, rfl, rfl⟩

/-- The bundled commands come out alike through every embedding. -/
theorem renderPrepared_bundled {clock : ω → Calendar.Moment}
    (hLoads : ∀ handle, r.Loads handle → IsBundled clock r.settings handle.handler)
    (hHolds : Holds (IsBundled clock r.settings) s) (e f : Embedding) (mode : Text) :
    r.renderPrepared e mode p document s = r.renderPrepared f mode p document s := by
  refine renderPrepared_congr ?_ mode
  intro _ phases hAnswer
  have hResolved := holds_resolve hLoads hHolds p.command
  cases hResult : (r.resolve p.command s).result with
  | error fault =>
      rw [answer, hResult] at hAnswer
      cases hAnswer
  | ok entry =>
      cases entry with
      | none =>
          rw [answer, hResult] at hAnswer
          cases hAnswer
      | some handle =>
          obtain ⟨kind, hKind⟩ :=
            holds_boundHandler (hResolved.handles _ _ (resolve_held hResult)) hResolved .render
          rw [answer, hResult] at hAnswer
          cases hAnswer
          simp only [Registry.phases, hKind, Handler.Bundled.render_eq]

end Registry

end CommandMarkup
