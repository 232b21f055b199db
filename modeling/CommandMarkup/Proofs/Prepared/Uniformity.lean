import CommandMarkup.Proofs.Call.Spelling
import CommandMarkup.Proofs.Prepared.Bundled

/-! The same call and content in different embeddings. Once the delimiters are off nothing is left of
an embedding but its type, and the type is seen by the handler alone: what the handler makes of it is
all that two embeddings can differ in.

Main statement: `recognize_uniform`. -/
namespace CommandMarkup

variable {ω : Type}

namespace Handler

/-- Preparing pays no attention to how a command is embedded. -/
def IgnoresEmbedding (handler : Handler ω) : Prop :=
  ∀ (type other : EmbeddingType) (parameters : List Parameter) (content : Text) (world : ω),
    handler.prepare ⟨type, parameters, content⟩ world =
      handler.prepare ⟨other, parameters, content⟩ world

/-- The type of the embedding decides the wrapper, and nothing else of what a bundled handler
prepares. -/
theorem Bundled.prepare_family (kind : Bundled) (clock : ω → Calendar.Moment) (settings : Settings)
    (parameters : List Parameter) (content : Text) (world : ω) :
    (∃ fault, ∀ type,
      (kind.handler clock settings).prepare ⟨type, parameters, content⟩ world =
        ⟨.error fault, world⟩) ∨
    ∃ t, ∀ type,
      (kind.handler clock settings).prepare ⟨type, parameters, content⟩ world =
        ⟨.ok (.text ((Wrapper.ofClass type (kind.cssClass settings parameters)).around
          (Text.escape t))), world⟩ := by
  simp only [← wrap_eq_around]
  cases kind with
  | dateTime =>
      simp only [handler, cssClass, DateTime.handler, ofPrepare, DateTime.prepare]
      cases DateTime.variantOf parameters with
      | error fault => exact .inl ⟨fault, fun _ => rfl⟩
      | ok variant =>
          dsimp only
          cases DateTime.write (clock world) (settings.dateFormat variant) content with
          | error fault => exact .inl ⟨fault, fun _ => rfl⟩
          | ok t => exact .inr ⟨t, fun _ => rfl⟩
  | abstract =>
      simp only [handler, cssClass, Abstract.handler, ofPrepare, Abstract.prepare]
      cases Abstract.lengthOf parameters with
      | error fault => exact .inl ⟨fault, fun _ => rfl⟩
      | ok length => exact .inr ⟨_, fun _ => rfl⟩

end Handler

namespace Prepared

/-- The prepared command as if it had been embedded that way. -/
def embeddedAs (type : EmbeddingType) (p : Prepared) : Prepared := { p with embedding := type }

/-- What a bundled command is recognized as in two types of embedding: the same fault, literals of
the same text, or the same body in the wrapper that the class asks for in each. -/
inductive Twins (cssClass : Option Text) (type other : EmbeddingType) :
    Except Fault Prepared → Except Fault Prepared → Prop where
  | broken (fault : Fault) : Twins cssClass type other (.error fault) (.error fault)
  | literal (t : Text) : Twins cssClass type other (.ok (.literal t type)) (.ok (.literal t other))
  | markup (name body : Text) : Twins cssClass type other
      (.ok ⟨name, .text ((Handler.Wrapper.ofClass type cssClass).around body), type⟩)
      (.ok ⟨name, .text ((Handler.Wrapper.ofClass other cssClass).around body), other⟩)

end Prepared

namespace Registry

open Handler Prepared

variable {r : Registry ω} {e f : Embedding} {type other : EmbeddingType}
  {callText content : Text} {s : State ω}

/-- Delimiters that do not show in the call text are taken off, whatever they are. -/
theorem recognize_enclose (hCall : '(' ∉ callText) (r : Registry ω) (e : Embedding)
    (content : Text) (s : State ω) :
    r.recognize e (e.enclose callText content) s = recognizeCall r e.type callText content s :=
  recognize_of_split (Embedding.split?_eq_some_iff.mpr ⟨rfl, hCall⟩) r s

/-- Of an occurrence, preparing leaves no trace in the state but what the handler makes of the
world. -/
theorem prepare_eq (handle : Handle ω) (s : State ω) :
    ∃ after : State ω, ∀ occurrence, prepare handle occurrence s =
      ⟨((boundHandler handle .prepare s).prepare occurrence s.world).result,
        { after with
            world := ((boundHandler handle .prepare s).prepare occurrence s.world).state }⟩ := by
  obtain ⟨target, after, hBind, hHandler, hWorld⟩ := bind_boundHandler handle .prepare s
  refine ⟨after, fun occurrence => ?_⟩
  rw [← hHandler, ← hWorld, prepare, hBind]
  rfl

/-- The type of the embedding is entered into the prepared command, and has no other part in what a
preparation is recognized as. -/
theorem recognizedAs_embeddedAs (name : Text) (type other : EmbeddingType)
    (o : Outcome (State ω) Value) : recognizedAs name other o =
      ⟨(recognizedAs name type o).result.map (embeddedAs other),
        (recognizedAs name type o).state⟩ := by
  obtain ⟨result, after⟩ := o
  cases result with
  | ok payload => rfl
  | error fault => cases fault <;> rfl

/-- A handler that ignores the embedding makes the same of a call in every type, and so does the
lack of one. -/
theorem recognizeCall_ignoring (hIgnores : ∀ call handler, Call.parse callText = .ok call →
      preparer r call.name s = some handler → handler.IgnoresEmbedding) :
    recognizeCall r other callText content s =
      ⟨(recognizeCall r type callText content s).result.map (embeddedAs other),
        (recognizeCall r type callText content s).state⟩ := by
  rw [recognizeCall, recognizeCall]
  cases hParse : Call.parse callText with
  | error rejection => rfl
  | ok call =>
      dsimp only
      cases hResolve : r.resolve call.name s with
      | mk result resolved =>
          cases result with
          | error fault => rfl
          | ok entry =>
              cases entry with
              | none => rfl
              | some handle =>
                  have hPreparer : preparer r call.name s =
                      some (boundHandler handle .prepare resolved) := by
                    rw [preparer, hResolve]
                  have hAlike := hIgnores call _ hParse hPreparer other type
                  obtain ⟨after, hPrepare⟩ := prepare_eq handle resolved
                  have hSame : prepare handle ⟨other, call.parameters, content⟩ resolved =
                      prepare handle ⟨type, call.parameters, content⟩ resolved := by
                    rw [hPrepare, hPrepare, hAlike]
                  dsimp only [Outcome.andThen]
                  rw [hSame]
                  exact recognizedAs_embeddedAs call.name type other _

/-- A call of a bundled command is recognized to twins in two types of embedding, and the state
after it is the same. -/
theorem recognizeCall_bundled {call : Call} {clock : ω → Calendar.Moment} {settings : Settings}
    {kind : Bundled} (hParse : Call.parse callText = .ok call)
    (hPreparer : preparer r call.name s = some (kind.handler clock settings)) :
    Twins (kind.cssClass settings call.parameters) type other
        (recognizeCall r type callText content s).result
        (recognizeCall r other callText content s).result ∧
      (recognizeCall r other callText content s).state =
        (recognizeCall r type callText content s).state := by
  rw [recognizeCall, recognizeCall, hParse]
  dsimp only
  rw [preparer] at hPreparer
  cases hResolve : r.resolve call.name s with
  | mk result resolved =>
      rw [hResolve] at hPreparer
      cases result with
      | error fault => cases hPreparer
      | ok entry =>
          cases entry with
          | none => cases hPreparer
          | some handle =>
              have hHandler := Option.some.inj hPreparer
              obtain ⟨after, hPrepare⟩ := prepare_eq handle resolved
              simp only [hHandler] at hPrepare
              simp only [Outcome.andThen, hPrepare]
              rcases kind.prepare_family clock settings call.parameters content resolved.world with
                ⟨fault, hFault⟩ | ⟨t, hText⟩
              · simp only [hFault]
                cases fault
                case reported message => exact ⟨.literal _, rfl⟩
                all_goals exact ⟨.broken _, rfl⟩
              · simp only [hText]
                exact ⟨.markup call.name (Text.escape t), rfl⟩

/-- The case of a name does not show in what is recognized. Only a call that is rejected quotes its
own spelling, in the log. -/
theorem recognizeCall_spelling {spelled : Text} (h : Call.SameButCase spelled callText) :
    (recognizeCall r type spelled content s).result =
        (recognizeCall r type callText content s).result ∧
      ((∃ call, Call.parse callText = .ok call) →
        recognizeCall r type spelled content s = recognizeCall r type callText content s) := by
  rw [recognizeCall, recognizeCall]
  cases hParse : Call.parse callText with
  | ok call =>
      rw [h.parse_iff.mpr hParse]
      exact ⟨rfl, fun _ => rfl⟩
  | error rejection =>
      constructor
      · cases hSpelled : Call.parse spelled with
        | ok call => cases hParse.symm.trans (h.parse_iff.mp hSpelled)
        | error other => rfl
      · rintro ⟨call, hCall⟩
        cases hCall

/-- A call and its content come to the same in all embeddings of a type, whatever their delimiters.
Between the types nothing changes but the type itself if the handler ignores it or if there is none,
and for a bundled handler nothing but the wrapper changes in addition. The case of the name changes
nothing anywhere. -/
theorem recognize_uniform (r : Registry ω) (e : Embedding) {callText : Text}
    (hCall : '(' ∉ callText) (content : Text) (s : State ω) :
    let o := r.recognize e (e.enclose callText content) s
    (∀ f : Embedding, f.type = e.type → r.recognize f (f.enclose callText content) s = o) ∧
    (∀ f : Embedding,
      (∀ call handler, Call.parse callText = .ok call → preparer r call.name s = some handler →
        handler.IgnoresEmbedding) →
      r.recognize f (f.enclose callText content) s =
        ⟨o.result.map (embeddedAs f.type), o.state⟩) ∧
    (∀ (f : Embedding) call clock settings (kind : Bundled), Call.parse callText = .ok call →
      preparer r call.name s = some (kind.handler clock settings) →
      Twins (kind.cssClass settings call.parameters) e.type f.type o.result
          (r.recognize f (f.enclose callText content) s).result ∧
        (r.recognize f (f.enclose callText content) s).state = o.state) ∧
    ∀ spelled, Call.SameButCase spelled callText →
      (r.recognize e (e.enclose spelled content) s).result = o.result ∧
      ((∃ call, Call.parse callText = .ok call) →
        r.recognize e (e.enclose spelled content) s = o) := by
  intro o
  have hHere : o = recognizeCall r e.type callText content s := recognize_enclose hCall r e content s
  rw [hHere]
  refine ⟨?_, ?_, ?_, ?_⟩
  · intro f hType
    rw [recognize_enclose hCall, hType]
  · intro f hIgnores
    rw [recognize_enclose hCall]
    exact recognizeCall_ignoring hIgnores
  · intro f call clock settings kind hParse hPreparer
    rw [recognize_enclose hCall]
    exact recognizeCall_bundled hParse hPreparer
  · intro spelled hSpelled
    have hOpen : '(' ∉ spelled := fun hMem => hCall (hSpelled.parenthesis_mem_iff.mp hMem)
    rw [recognize_enclose hOpen]
    exact recognizeCall_spelling hSpelled

/-- A format that has a class and no pattern, inline and in a block with delimiters of its own. -/
theorem recognize_uniform_date :
    let clock : Unit → Calendar.Moment := fun _ => ⟨⟨2024, 5, 1, by decide⟩, .midnight, none⟩
    let settings : Settings := { dateFormats := .ofEntries [("due".toList, "late|".toList)] }
    let r : Registry Unit := ⟨settings, .bundled clock⟩
    let s := start ⟨(), [], [], 0⟩
    let f : Embedding := ⟨.block, "<<".toList, ">>".toList⟩
    let here := (r.recognize .inline "%Dt?due(noon)%".toList s)
    '(' ∉ "Dt?due".toList ∧
      here.result =
        .ok ⟨"dt".toList, .text "<span class='late'>noon</span>".toList, .inline⟩ ∧
      Twins (some "late".toList) .inline .block here.result
        (r.recognize f "<<Dt?due(noon)>>".toList s).result ∧
      r.recognize .inline "%dT?due(noon)%".toList s = here := by
  intro clock settings r s f here
  have hCall : '(' ∉ "Dt?due".toList := by decide
  have hParse : Call.parse "Dt?due".toList = .ok ⟨"dt".toList, [.bare "due".toList]⟩ := rfl
  have hSpelled : Call.SameButCase "dT?due".toList "Dt?due".toList := ⟨rfl, rfl⟩
  obtain ⟨_, _, hBundled, hSpelling⟩ :=
    recognize_uniform r .inline hCall "noon".toList s
  refine ⟨hCall, rfl, ?_, (hSpelling _ hSpelled).2 ⟨_, hParse⟩⟩
  exact (hBundled f _ clock settings .dateTime hParse rfl).1

end Registry

end CommandMarkup
