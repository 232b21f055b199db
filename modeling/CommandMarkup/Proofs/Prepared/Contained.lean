import CommandMarkup.Proofs.Prepared.Bundled

/-! Caller text never becomes markup where the bundled commands are the only ones. Whatever the
content, the parameters and the settings hold, what a command adds to a document is an inert body,
and the wrapper around it is chosen without a look at the content. -/
namespace CommandMarkup

namespace Handler.Bundled

/-- The name of the handler class of the command. -/
def className : Bundled → Text
  | dateTime => DateTime.className
  | abstract => Abstract.className

/-- The bundled command that has a handler, told by the name of its class. -/
def ofHandler? {ω : Type} (handler : Handler ω) : Option Bundled :=
  [dateTime, abstract].find? fun kind => kind.className = handler.className

theorem ofHandler?_handler {ω : Type} (kind : Bundled) (clock : ω → Calendar.Moment)
    (settings : Settings) : ofHandler? (kind.handler clock settings) = some kind := by
  cases kind <;> rfl

end Handler.Bundled

namespace Handler.Wrapper

/-- A class is written so that it stays within its quotation marks and is read back as it was. -/
theorem quotable_of_classText {embedding : EmbeddingType} {cssClass : Option Text} {written : Text}
    (h : (ofClass embedding cssClass).classText = some written) :
    Text.Quotable written ∧ cssClass = some (Text.decode written) := by
  rw [classText_ofClass] at h
  obtain ⟨configured, rfl, rfl⟩ := Option.map_eq_some_iff.mp h
  exact ⟨Text.quotable_escapeAttribute configured, by rw [Text.decode_escapeAttribute]⟩

end Handler.Wrapper

namespace Registry

open Handler

variable {ω : Type} {clock : ω → Calendar.Moment} {r : Registry ω}

/-- The class that is configured for what a call is prepared to, if the call is that of a bundled
command and there is one for its variant. -/
def configuredClass (r : Registry ω) (callText : Text) (s : State ω) : Option Text :=
  match Call.parse callText with
  | .error _ => none
  | .ok call =>
    ((preparer r call.name s).bind Bundled.ofHandler?).bind fun kind =>
      kind.cssClass r.settings call.parameters

/-- For a call of a bundled command the configured class is the one for its parameters. -/
theorem configuredClass_of_preparer {callText : Text} {call : Call} {s : State ω} {kind : Bundled}
    (hParse : Call.parse callText = .ok call)
    (hPreparer : preparer r call.name s = some (kind.handler clock r.settings)) :
    configuredClass r callText s = kind.cssClass r.settings call.parameters := by
  rw [configuredClass, hParse]
  dsimp only
  rw [hPreparer, Option.bind_some, Bundled.ofHandler?_handler, Option.bind_some]

/-- The prepared command adds nothing to a document but an inert body, in the wrapper that the
configured class asks for; a literal has no wrapper. -/
structure Contained (clock : ω → Calendar.Moment) (r : Registry ω) (e : Embedding) (command : Text)
    (s : State ω) (p : Prepared) (callText content body : Text) : Prop where
  split : e.split? command = some (callText, content)
  inert : Text.Inert body
  output : PutsOut (IsBundled clock r.settings) r p
    (if p.isLiteral then body
      else (Wrapper.ofClass e.type (configuredClass r callText s)).around body)
    (r.recognize e command s).state
  cssClass : ∀ written,
    (Wrapper.ofClass e.type (configuredClass r callText s)).classText = some written →
      Text.Quotable written ∧ configuredClass r callText s = some (Text.decode written)

/-- Whatever a command is recognized as when no handlers but the bundled ones were brought in, no
part of it reaches a document as markup. -/
theorem recognize_contained {as : List (Action ω)}
    (hOnly : UsesOnly (IsBundled clock r.settings) r as) (host : Host ω) {e : Embedding}
    {command : Text} {p : Prepared}
    (h : (r.recognize e command (run r as (start host))).result = .ok p) :
    ∃ callText content body,
      Contained clock r e command (run r as (start host)) p callText content body := by
  have hHolds : Holds (IsBundled clock r.settings) (run r as (start host)) :=
    holds_run hOnly (holds_start _ host)
  cases hSplit : e.split? command with
  | none =>
      rw [recognize, hSplit] at h
      cases h
  | some parts =>
      obtain ⟨callText, content⟩ := parts
      cases recognition_bundled hOnly.loads hHolds hSplit with
      | literal t hResult =>
          cases hResult.symm.trans h
          exact ⟨callText, content, Text.escape t, hSplit, Text.inert_escape t,
            putsOut_literal _ _ _ _ _, fun _ => Wrapper.quotable_of_classText⟩
      | markup call kind t hParse hPreparer hResult =>
          cases hResult.symm.trans h
          refine ⟨callText, content, Text.escape t, hSplit, Text.inert_escape t, ?_,
            fun _ => Wrapper.quotable_of_classText⟩
          rw [isLiteral_call hParse, if_neg Bool.false_ne_true,
            configuredClass_of_preparer hParse hPreparer]
          exact putsOut_recognized hOnly.loads hHolds hParse hResult
      | overlong call digits _ _ _ hResult => cases hResult.symm.trans h
      | broken call fault _ _ hResult => cases hResult.symm.trans h

/-- A class with a quotation mark and content with a tag, under a name that the handler of `dt` is
registered for. -/
theorem recognize_contained_registered :
    let clock : Unit → Calendar.Moment := fun _ => ⟨⟨2024, 5, 1, by decide⟩, .midnight, none⟩
    let settings : Settings := { dateFormats := .ofEntries [("due".toList, "a'b|".toList)] }
    let r : Registry Unit := ⟨settings, .bundled clock⟩
    let as : List (Action Unit) :=
      [.register "Day".toList (.ofHandler (DateTime.handler clock settings))]
    let s := run r as (start ⟨(), [], [], 0⟩)
    let p : Prepared :=
      ⟨"day".toList, .text "<span class='a&#x27;b'>&lt;b&gt;</span>".toList, .inline⟩
    UsesOnly (IsBundled clock settings) r as ∧
      (r.recognize .inline "%DAY?due(<b>)%".toList s).result = .ok p ∧
      ∃ callText content body,
        Contained clock r .inline "%DAY?due(<b>)%".toList s p callText content body := by
  intro clock settings r as s p
  have hOnly : UsesOnly (IsBundled clock r.settings) r as := by
    refine ⟨(bundledOnly_bundled clock rfl).loads, List.forall_mem_singleton.mpr ⟨nofun, ?_⟩⟩
    intro name source hAction handler hYields
    cases hAction
    exact ⟨.dateTime, hYields⟩
  have hResult : (r.recognize .inline "%DAY?due(<b>)%".toList s).result = .ok p := rfl
  exact ⟨hOnly, hResult, recognize_contained hOnly _ hResult⟩

end Registry

end CommandMarkup
