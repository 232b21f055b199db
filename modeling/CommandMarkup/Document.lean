import CommandMarkup.Embedding.Segment
import CommandMarkup.Prepared.Recognize
import CommandMarkup.Prepared.Render

/-!
Whole documents: every command in a text is replaced by its output, and all else is kept.
-/

namespace CommandMarkup.Registry

variable {ω : Type}

/-- What processing a text comes to: the commands prepared on the way, the document after it, and
the state. -/
structure Processing (ω : Type) where
  outcome : Outcome (State ω) (List Prepared)
  document : Text

/-- Puts out segments of a text one after another: what stands before a command, and then the
command. The first failure ends it. -/
def processSegments (r : Registry ω) :
    List Embedding.Segment → (document : Text) → State ω → Processing ω
  | [], document, s => ⟨.ok [] s, document⟩
  | segment :: rest, document, s =>
    let document := document ++ segment.before
    match r.recognize segment.embedding segment.command s with
    | ⟨.error fault, s⟩ => ⟨.error fault s, document⟩
    | ⟨.ok prepared, s⟩ =>
      let rendering :=
        r.renderPrepared segment.embedding r.settings.outputMode prepared document s
      match rendering.outcome with
      | ⟨.error fault, s⟩ => ⟨.error fault s, rendering.document⟩
      | ⟨.ok _, s⟩ =>
        let processing := processSegments r rest rendering.document s
        ⟨processing.outcome.andThen fun more s => .ok (prepared :: more) s, processing.document⟩

/-- Processes a text: the commands of the embeddings are taken from left to right, where two start
together that of the first embedding. -/
def process (r : Registry ω) (es : List Embedding) (t : Text) (document : Text) (s : State ω) :
    Processing ω :=
  let parts := Embedding.segments es t
  let processing := r.processSegments parts.1 document s
  match processing.outcome.result with
  | .ok _ => { processing with document := processing.document ++ parts.2 }
  | .error _ => processing

end CommandMarkup.Registry
