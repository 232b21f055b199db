import CommandMarkup.Proofs.Prepared.Purity
import CommandMarkup.Proofs.Prepared.Separation

/-! Prepared commands do not tell what was done before they were prepared, and can be kept. What a
bundled command is prepared to depends on the settings and the clock alone, however the registry was
used, and the rest of the way it is text: where settings and clock are others, it is put out the
same.

Main statement: `prepared_keeps`. -/
namespace CommandMarkup.Registry

variable {ω : Type}

/-- A run that passes own handles only and does not give the name a handle. -/
structure Undisturbed (r : Registry ω) (name : Text) (host : Host ω) (as : List (Action ω)) :
    Prop where
  own : PassesOwn r as (start host)
  unregistered : Unregistered r name as (start host)

/-- In that state the prepared command is put out as the text, at the end of any document. -/
def ShowsAs (p : Prepared) (output : Text) (r : Registry ω) (s : State ω) : Prop :=
  ∀ (e : Embedding) (document : Text), ∃ final,
    r.renderPrepared e r.settings.outputMode p document s = ⟨.ok true final, document ++ output⟩

/-- A prepared command whose name resolves to none now is put out as not found. Its payload is not
looked at. -/
theorem showsAs_absent {r : Registry ω} {s : State ω} {p : Prepared} (hPlain : p.isLiteral = false)
    (h : (r.resolve p.command s).result = .ok none) : ShowsAs p Prepared.notFound r s := by
  intro e document
  obtain ⟨final, hFinal⟩ := renderPrepared_result r e document s hPlain
  rw [rendition, answer, h] at hFinal
  exact ⟨final, hFinal⟩

section Bundled

open Handler

variable {clock : ω → Calendar.Moment} {r : Registry ω} {name : Text}

/-- In two worlds of one time a bundled handler prepares the same. -/
theorem prepare_clock (kind : Bundled) {world other : ω} (h : clock world = clock other)
    (settings : Settings) (occurrence : Occurrence) :
    ((kind.handler clock settings).prepare occurrence world).result =
      ((kind.handler clock settings).prepare occurrence other).result := by
  cases kind with
  | dateTime =>
      change DateTime.prepare settings (clock world) occurrence =
        DateTime.prepare settings (clock other) occurrence
      rw [h]
  | abstract => rfl

/-- The bundled command that a name comes to is the same after every undisturbed run, and resolving
it leaves the world alone. -/
theorem answer_bundled (hFinds : FindsBundled clock r name) (hLower : Text.lower name = name) :
    ∃ found : Except Fault (Option Bundled), ∀ host as, Undisturbed r name host as →
      answer r name (run r as (start host)) =
        found.map (Option.map fun kind _ => kind.handler clock r.settings) ∧
      (r.resolve name (run r as (start host))).state.world = (run r as (start host)).world := by
  obtain ⟨found, hBuild⟩ := build_bundled hFinds
  refine ⟨found, ?_⟩
  intro host as hRun
  constructor
  · let A : Answer ω → Prop := fun given =>
      given = found.map (Option.map fun kind _ => kind.handler clock r.settings)
    have hStart : Settled A r name (start host) :=
      settled_start (fun other => (hBuild other).2) host
    have hOwn : PassesOwn r ([] ++ as) (start host) := hRun.own
    have hSettled : Settled A r name (run r as (start host)) :=
      settled_run hOwn hRun.unregistered hStart
    rw [← hLower] at hSettled
    exact settled_answer hSettled
  · have hWorld := (hBuild (run r as (start host)).toHost).1
    rcases resolve_cases r name (run r as (start host)) with ⟨entry, _, hResolve⟩ |
      ⟨_, entry, after, hAfter, hResolve⟩ | ⟨_, fault, after, hAfter, hResolve⟩
    · rw [hResolve]
      rfl
    · rw [hLower] at hAfter
      rw [hAfter] at hWorld
      rw [hResolve]
      exact hWorld
    · rw [hLower] at hAfter
      rw [hAfter] at hWorld
      rw [hResolve]
      exact hWorld

/-- A bundled command is recognized the same after any two undisturbed runs, at the same time. -/
theorem recognize_undisturbed (hFinds : FindsBundled clock r name) {host other : Host ω}
    {as bs : List (Action ω)} (hRun : Undisturbed r name host as)
    (hOther : Undisturbed r name other bs) {e : Embedding} {command : Text}
    {occurrence : Occurrence} (hCalls : Calls e command name occurrence)
    (hClock : clock (run r as (start host)).world = clock (run r bs (start other)).world) :
    (r.recognize e command (run r as (start host))).result =
      (r.recognize e command (run r bs (start other))).result := by
  obtain ⟨found, hFound⟩ := answer_bundled hFinds hCalls.lower_eq
  obtain ⟨hAnswer, hWorld⟩ := hFound host as hRun
  obtain ⟨hAnswer', hWorld'⟩ := hFound other bs hOther
  rw [recognize_result, recognize_result, recognitionBy_calls hCalls, recognitionBy_calls hCalls]
  rw [preparation, preparation, hAnswer, hAnswer', hWorld, hWorld', preparedBy, preparedBy]
  cases found with
  | error fault => rfl
  | ok entry =>
      cases entry with
      | none => rfl
      | some kind =>
          have hSame := prepare_clock kind hClock r.settings occurrence
          simp only [Except.map, Option.map_some, hSame]

/-- A name that resolves to a bundled handler, of whatever settings, puts prepared text out as it
is. -/
theorem showsAs_bundled {host : Host ω} {as : List (Action ω)} (hOwn : PassesOwn r as (start host))
    {p : Prepared} (hPlain : p.isLiteral = false) {t : Text} (hPayload : p.payload = .text t)
    {settings : Settings} {handle : Handle ω} (hBundled : IsBundled clock settings handle.handler)
    (hResolve : (r.resolve p.command (run r as (start host))).result = .ok (some handle)) :
    ShowsAs p t r (run r as (start host)) := by
  intro e document
  obtain ⟨kind, hKind⟩ := hBundled
  obtain ⟨final, hFinal⟩ := renderPrepared_result r e document (run r as (start host)) hPlain
  have hRendition : rendition r (run r as (start host)) p.command e.type p.payload document =
      .ok (some (.ok (.text t), [])) := by
    rw [rendition, answer_own hOwn hResolve, hPayload]
    simp only [renderedBy, Except.map, Option.map_some, hKind, Bundled.render_eq]
  rw [hRendition] at hFinal
  exact ⟨final, hFinal⟩

/-- What a bundled command is prepared to is text, and its name resolves to a bundled handler. -/
theorem recognized_bundled (hFinds : FindsBundled clock r name) {host : Host ω}
    {as : List (Action ω)} (hRun : Undisturbed r name host as) {e : Embedding} {command : Text}
    {occurrence : Occurrence} (hCalls : Calls e command name occurrence) {p : Prepared}
    (h : (r.recognize e command (run r as (start host))).result = .ok p)
    (hPlain : p.isLiteral = false) :
    (∃ t, p.payload = .text t) ∧ ∃ handle, IsBundled clock r.settings handle.handler ∧
      MeetsAgain r host as e command p handle := by
  obtain ⟨found, hFound⟩ := answer_bundled hFinds hCalls.lower_eq
  obtain ⟨hAnswer, _⟩ := hFound host as hRun
  obtain ⟨handle, hMeets⟩ := meetsAgain hRun.own h hPlain
  obtain ⟨callText, content, call, hSplit, hParse, _, hResolve, hPrepares⟩ := hMeets.prepared
  obtain ⟨rfl, _⟩ := hCalls.unique ⟨callText, content, call, hSplit, hParse, rfl, rfl⟩
  -- The handle that is found is the one the undisturbed answer tells of.
  rw [answer_own hRun.own hResolve] at hAnswer
  obtain ⟨kind, hKind⟩ : IsBundled clock r.settings handle.handler := by
    cases found with
    | error fault => cases hAnswer
    | ok entry =>
        cases entry with
        | none => cases hAnswer
        | some kind =>
            simp only [Except.map, Option.map_some, Except.ok.injEq, Option.some.injEq] at hAnswer
            exact ⟨kind, congrFun hAnswer .prepare⟩
  refine ⟨?_, handle, ⟨kind, hKind⟩, hMeets⟩
  have hAscii : ∀ value, call.parameters = [.bare value] →
      ∀ c ∈ value, Text.isAscii c = true := by
    intro value hParameters
    apply isAscii_of_parse hParse
    rw [hParameters]
    exact List.mem_cons_self
  obtain ⟨hPrepared, _⟩ := hPrepares
  rw [hKind] at hPrepared
  rcases kind.prepare_cases clock r.settings ⟨e.type, call.parameters, content⟩
      (r.resolve call.name (run r as (start host))).state.world hAscii with
    ⟨t, hText⟩ | ⟨message, hReported⟩ | ⟨digits, _, _, hFault⟩
  · exact ⟨_, Except.ok.inj (hPrepared.trans hText)⟩
  · cases hPrepared.trans hReported
  · cases hPrepared.trans hFault

end Bundled

/-- What is kept of a bundled command when it is prepared in an undisturbed registry. -/
structure KeepsBundled (clock : ω → Calendar.Moment) (r : Registry ω) (name : Text) : Prop where
  recognizes : ∀ host other as bs, Undisturbed r name host as → Undisturbed r name other bs →
    ∀ e command occurrence, Calls e command name occurrence →
      clock (run r as (start host)).world = clock (run r bs (start other)).world →
      (r.recognize e command (run r as (start host))).result =
        (r.recognize e command (run r bs (start other))).result
  /-- A command that is no literal is put out as its payload as often as one likes, in its own
  registry and in any other where its name resolves to a bundled handler, with whatever settings and
  clock; where its name resolves to none, it is not found. -/
  shows : ∀ host as, Undisturbed r name host as → ∀ e command occurrence p,
    Calls e command name occurrence →
    (r.recognize e command (run r as (start host))).result = .ok p → p.isLiteral = false →
    ∃ t, p.payload = .text t ∧
      (∀ later, PassesOwn r (as ++ .recognize e command :: later) (start host) →
        ShowsAs p t r (run r (as ++ .recognize e command :: later) (start host))) ∧
      ∀ {ω' : Type} (clock' : ω' → Calendar.Moment) (r' : Registry ω') (host' : Host ω')
        (as' : List (Action ω')), PassesOwn r' as' (start host') →
        let s := run r' as' (start host')
        (∀ settings handle, (r'.resolve p.command s).result = .ok (some handle) →
          IsBundled clock' settings handle.handler → ShowsAs p t r' s) ∧
        ((r'.resolve p.command s).result = .ok none → ShowsAs p Prepared.notFound r' s)

/-- A bundled command depends on the settings and the clock, and on nothing of the history of the
registry. -/
theorem keepsBundled {clock : ω → Calendar.Moment} {r : Registry ω} {name : Text}
    (hFinds : FindsBundled clock r name) : KeepsBundled clock r name where
  recognizes := by
    intro host other as bs hRun hOther e command occurrence hCalls hClock
    exact recognize_undisturbed hFinds hRun hOther hCalls hClock
  shows := by
    intro host as hRun e command occurrence p hCalls hResult hPlain
    obtain ⟨⟨t, hPayload⟩, handle, hBundled, hMeets⟩ :=
      recognized_bundled hFinds hRun hCalls hResult hPlain
    refine ⟨t, hPayload, ?_, ?_⟩
    · intro later hOwn
      have hResolve := (hMeets.rendered later hOwn).1
      exact showsAs_bundled hOwn hPlain hPayload hBundled (congrArg Outcome.result hResolve)
    · intro ω' clock' r' host' as' hOwn s
      constructor
      · intro settings found hResolve hFound
        exact showsAs_bundled hOwn hPlain hPayload hFound hResolve
      · intro hNone
        exact showsAs_absent hPlain hNone

/-- After a run that passes own handles only, the name resolves to a handler that does what the
behaviour says. -/
structure Serves (b : Behaviour) (r : Registry ω) (name : Text) (host : Host ω)
    (as : List (Action ω)) : Prop where
  own : PassesOwn r as (start host)
  found : ∃ handle, (r.resolve name (run r as (start host))).result = .ok (some handle) ∧
    b.Governs fun _ => handle.handler

theorem Serves.governed {b : Behaviour} {r : Registry ω} {name : Text} {host : Host ω}
    {as : List (Action ω)} (h : Serves b r name host as) :
    Governed (.ok (some b)) (answer r name (run r as (start host))) := by
  obtain ⟨handle, hResolve, hGoverns⟩ := h.found
  rw [answer_own h.own hResolve]
  exact .found hGoverns

/-- What is kept of a pure command: wherever its name has that behaviour, it is recognized the same,
and put out the same. -/
structure KeepsPure (b : Behaviour) (name : Text) : Prop where
  registered : ∀ {ω : Type} (r : Registry ω) (host : Host ω) (before after : List (Action ω))
    (given : Text) (source : Source ω) (handle : Handle ω),
    Text.lower given = Text.lower name →
    (r.register given source (run r before (start host))).result = .ok handle →
    b.Governs (fun _ => handle.handler) →
    PassesOwn r (before ++ .register given source :: after) (start host) →
    Serves b r name host (before ++ .register given source :: after)
  recognizes : ∀ {ω ω' : Type} (r : Registry ω) (r' : Registry ω') (host : Host ω)
    (host' : Host ω') (as : List (Action ω)) (as' : List (Action ω')),
    Serves b r name host as → Serves b r' name host' as' →
    ∀ e command occurrence, Calls e command name occurrence →
      (r.recognize e command (run r as (start host))).result =
        (r'.recognize e command (run r' as' (start host'))).result
  shows : ∀ {ω : Type} (r : Registry ω) (host : Host ω) (as : List (Action ω)),
    Serves b r name host as →
    ∀ (e : Embedding) (p : Prepared) (document : Text), p.isLiteral = false → p.command = name →
      ∃ final, r.renderPrepared e r.settings.outputMode p document (run r as (start host)) =
        ⟨⟨verdict (b.render e.type p.payload), final⟩,
          document ++ piece (b.render e.type p.payload)⟩
  absent : ∀ {ω : Type} (r : Registry ω) (s : State ω) (p : Prepared), p.isLiteral = false →
    p.command = name → (r.resolve name s).result = .ok none → ShowsAs p Prepared.notFound r s

/-- A pure command depends on nothing at all: two registries in which its name has that behaviour
recognize it the same, and put it out the same. -/
theorem keepsPure (b : Behaviour) (name : Text) : KeepsPure b name where
  registered := by
    intro ω r host before after given source handle hName hResult hGoverns hOwn
    refine ⟨hOwn, handle, ?_, hGoverns⟩
    obtain ⟨_, _, hState⟩ := (registering r (run r before (start host)) given source).made
      handle hResult
    have hHeld : (r.register given source (run r before (start host))).state.handles.get?
        (Text.lower name) = some (some handle) := by
      rw [hState, hName, Table.get?_put_self]
    have hStill := handle_run hHeld r after
    rw [run_append]
    exact congrArg Outcome.result (resolve_known r hStill)
  recognizes := by
    intro ω ω' r r' host host' as as' hServes hServes' e command occurrence hCalls
    rw [recognize_result, recognize_result, recognitionBy_calls hCalls, recognitionBy_calls hCalls]
    rw [preparation, preparation, hServes.governed.preparedBy_eq, hServes'.governed.preparedBy_eq]
  shows := by
    intro ω r host as hServes e p document hPlain hCommand
    subst hCommand
    obtain ⟨final, hFinal⟩ := renderPrepared_result r e document (run r as (start host)) hPlain
    rw [rendition, hServes.governed.renderedBy_eq] at hFinal
    exact ⟨final, hFinal⟩
  absent := by
    intro ω r s p hPlain hCommand hNone
    subst hCommand
    exact showsAs_absent hPlain hNone

/-- Prepared commands can be kept, and tell nothing of what was done before. This holds for the
bundled commands, for commands whose handlers are pure, and for literals of whatever command. -/
theorem prepared_keeps (name : Text) :
    (∀ (clock : ω → Calendar.Moment) (r : Registry ω), FindsBundled clock r name →
      KeepsBundled clock r name) ∧
    (∀ b : Behaviour, KeepsPure b name) ∧
    ∀ (r : Registry ω) (host : Host ω) (as : List (Action ω)), PassesOwn r as (start host) →
      ∀ e command p, (r.recognize e command (run r as (start host))).result = .ok p →
        p.isLiteral = true → ∃ t, p.payload = .text t ∧ NeedsNoHandler p (Text.escape t) := by
  refine ⟨fun clock r hFinds => keepsBundled hFinds, fun b => keepsPure b name, ?_⟩
  intro r host as hOwn e command p hResult hLiteral
  cases hSplit : e.split? command with
  | none =>
      rw [recognize, hSplit] at hResult
      cases hResult
  | some parts =>
      obtain ⟨callText, content⟩ := parts
      exact (separated hOwn hSplit hResult).escaped hLiteral

/-- A class from the settings, prepared in a fresh registry and in a used one, and put out a year
later where the settings have none. -/
theorem prepared_keeps_class :
    let now : Unit → Calendar.Moment := fun _ => ⟨⟨2024, 5, 1, by decide⟩, .midnight, none⟩
    let later : Unit → Calendar.Moment := fun _ => ⟨⟨2025, 5, 1, by decide⟩, .midnight, none⟩
    let settings : Settings := { dateFormats := .ofEntries [("due".toList, "a|".toList)] }
    let r : Registry Unit := ⟨settings, .bundled now⟩
    let r' : Registry Unit := { environment := .bundled later }
    let as : List (Action Unit) :=
      [.recognize .inline "%DT?x(y)%".toList, .resolve "other".toList]
    let p : Prepared := ⟨"dt".toList, .text "<span class='a'>x</span>".toList, .inline⟩
    Undisturbed r "dt".toList ⟨(), [], [], 0⟩ as ∧
      Calls .inline "%dt?due(x)%".toList "dt".toList ⟨.inline, [.bare "due".toList], ['x']⟩ ∧
      (r.recognize .inline "%dt?due(x)%".toList (start ⟨(), [], [], 0⟩)).result = .ok p ∧
      (r.recognize .inline "%dt?due(x)%".toList (run r as (start ⟨(), [], [], 0⟩))).result = .ok p ∧
      ShowsAs p "<span class='a'>x</span>".toList r' (start ⟨(), [], [], 0⟩) := by
  intro now later settings r r' as p
  have hFinds : FindsBundled now r "dt".toList := (bundledOnly_bundled now rfl).findsBundled _
  have hCalls : Calls .inline "%dt?due(x)%".toList "dt".toList
      ⟨.inline, [.bare "due".toList], ['x']⟩ :=
    ⟨"dt?due".toList, ['x'], ⟨"dt".toList, [.bare "due".toList]⟩, by decide, by decide, rfl, rfl⟩
  have hFresh : Undisturbed r "dt".toList ⟨(), [], [], 0⟩ [] :=
    ⟨PassesOwn.of_none nofun, Unregistered.of_not_mem nofun⟩
  have hUsed : Undisturbed r "dt".toList ⟨(), [], [], 0⟩ as :=
    ⟨PassesOwn.of_none (by simp [as, Action.passed]), Unregistered.of_not_mem (by simp [as])⟩
  have hKeeps := (prepared_keeps "dt".toList).1 now r hFinds
  have hResult : (r.recognize .inline "%dt?due(x)%".toList (start ⟨(), [], [], 0⟩)).result =
      .ok p := rfl
  have hSame := hKeeps.recognizes _ _ [] as hFresh hUsed .inline _ _ hCalls rfl
  obtain ⟨t, hPayload, _, hOther⟩ := hKeeps.shows _ [] hFresh .inline _ _ p hCalls hResult rfl
  have hText : "<span class='a'>x</span>".toList = t := Value.text.inj hPayload
  subst hText
  refine ⟨hUsed, hCalls, hResult, hSame.symm.trans hResult, ?_⟩
  exact (hOther later r' ⟨(), [], [], 0⟩ [] (PassesOwn.of_none nofun)).1 r'.settings _ rfl
    ⟨.dateTime, rfl⟩

end CommandMarkup.Registry
