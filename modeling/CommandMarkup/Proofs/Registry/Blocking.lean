import CommandMarkup.Proofs.Prepared.Phases
import CommandMarkup.Proofs.Registry.Bundled
import CommandMarkup.Proofs.Registry.FirstHit
import CommandMarkup.Settings.Validation

/-! What keeps a name from being resolved. A package that is missing does not, for it is passed over
with a warning, and a module that cannot be imported does not, for its name is then left without a
handler. A package that is found and fails to be imported does, when a search comes to it: the
failure is passed on, and as nothing is remembered it is met again each time.

Main statement: `resolve_unless_blocked`, and `resolve_blocked_bundled` for a package in front of
the bundled one. -/
namespace CommandMarkup

namespace Registry

variable {ω : Type} {r : Registry ω} {key package reason : Text} {before after : List Text}

/-- Packages of the settings and modules in them can be imported, or fail to be as imports fail, and
no class fails to construct its handler. -/
structure Importing (r : Registry ω) : Prop where
  packages : ∀ package ∈ r.settings.extensionPackages, ∀ fault,
    r.environment.package package ≠ .crashed fault
  modules : ∀ package ∈ r.settings.extensionPackages, ∀ found,
    r.environment.package package = .loaded found →
    ∀ name fault, found.module? name ≠ some (.crashed fault)
  classes : r.NeverRaises

/-- The package that a search for the name comes to and that is there but fails to be imported. -/
structure Block (r : Registry ω) (key : Text) (before : List Text) (package : Text)
    (after : List Text) (reason : Text) : Prop where
  packages : r.settings.extensionPackages = before ++ package :: after
  skips : ∀ other ∈ before, r.Skips key other
  fails : r.environment.package package = .failed reason

/-- The name, in whatever case, has no entry, and the search for it would fail for that reason. -/
def Blocked (r : Registry ω) (name : Text) (s : State ω) (reason : Text) : Prop :=
  s.handles.get? (Text.lower name) = none ∧ Call.isName (Text.lower name) = true ∧
    ∃ before package after, r.Block (Text.lower name) before package after reason

/-- The result is a success, unless there is a reason that keeps it from being one; then it is the
failed import with that reason. -/
def OkUnless {α : Type} (blocked : Text → Prop) (result : Except Fault α) : Prop :=
  ((∀ reason, ¬ blocked reason) → ∃ a, result = .ok a) ∧
    ∀ reason, blocked reason → result = .error (.foreign .importing reason)

/-- What is written of a name when it comes to that entry. -/
inductive Told (key : Text) : Option (Handle ω) → List Event → Prop where
  | notFound : Told key none [.notFound key]
  | loadFailed (moduleName reason : Text) :
      Told key none [.loadFailed key moduleName reason, .notFound key]
  | loaded (handle : Handle ω) : Told key (some handle) [.loaded key handle.moduleName]

/-- How resolving a name turns out: it has an entry, or it comes to one, or it is blocked. -/
inductive Resolution (r : Registry ω) (name : Text) (s : State ω) : Prop where
  | known (entry : Option (Handle ω)) (hEntry : s.handles.get? (Text.lower name) = some entry)
      (hOutcome : r.resolve name s = .ok entry s)
  | decided (packages : List Text) (entry : Option (Handle ω)) (events : List Event) (world : ω)
      (serial : Nat) (hNew : s.handles.get? (Text.lower name) = none)
      (hTold : Told (Text.lower name) entry events)
      (hOutcome : r.resolve name s = .ok entry
        { settled s (Text.lower name) packages entry (r.warnings packages ++ events) with
          world
          nextSerial := serial })
  | blocked (reason : Text) (hBlocked : r.Blocked name s reason)

/-- Preparing the call with that content raises nothing but what handlers report, if its name
resolves to a handle at all. -/
def PreparesSafely (r : Registry ω) (e : Embedding) (callText content : Text) (s : State ω) :
    Prop :=
  ∀ call handle, Call.parse callText = .ok call →
    (r.resolve call.name s).result = .ok (some handle) →
    ∀ fault, (prepare handle ⟨e.type, call.parameters, content⟩
      (r.resolve call.name s).state).result = .error fault →
    ∃ message, fault = .reported message

/-- What asking a registry for a name comes to in a state. -/
structure Resolving (r : Registry ω) (s : State ω) : Prop where
  resolves : ∀ name, OkUnless (r.Blocked name s) (r.resolve name s).result
  knows : ∀ name, OkUnless (r.Blocked name s) (r.isKnown name s).result
  recognizes : ∀ e command callText content, e.split? command = some (callText, content) →
    r.PreparesSafely e callText content s →
    OkUnless (fun reason => ∃ call, Call.parse callText = .ok call ∧ r.Blocked call.name s reason)
      (r.recognize e command s).result
  /-- Packages that are passed over leave their warnings, and the next one is looked into. -/
  passes : ∀ name before package after, s.handles.get? (Text.lower name) = none →
    Call.isName (Text.lower name) = true →
    r.settings.extensionPackages = before ++ package :: after →
    (∀ other ∈ before, r.Skips (Text.lower name) other) →
    s.log ++ r.warnings before <+: (r.resolve name s).state.log ∧
      s.probes ++ (before ++ [package]).map (moduleNameIn · (Text.lower name)) <+:
        (r.resolve name s).state.probes
  /-- Nothing is remembered of a name that is blocked. -/
  blocks : ∀ name before package after reason, s.handles.get? (Text.lower name) = none →
    Call.isName (Text.lower name) = true →
    r.Block (Text.lower name) before package after reason →
    r.resolve name s = .error (.foreign .importing reason)
      { s with
        log := s.log ++ r.warnings before
        probes := s.probes ++ (before ++ [package]).map (moduleNameIn · (Text.lower name)) }

/-- What comes after a search takes nothing back, and looks nothing up. -/
theorem conclude_grows (r : Registry ω) (name : Text)
    (hit : Option (Text × Import (CommandModule ω))) (host : Host ω) :
    host.log <+: (r.conclude name hit host).state.log ∧
      (r.conclude name hit host).state.probes = host.probes := by
  cases hit with
  | none => exact ⟨List.prefix_append _ _, rfl⟩
  | some hit =>
      obtain ⟨moduleName, found⟩ := hit
      obtain ⟨result, events, world, serial, hWrites⟩ :=
        settle_writes name (load_writes r name moduleName found host.world host.nextSerial)
      have hHost : r.conclude name (some (moduleName, found)) host = _ :=
        hWrites host.log host.probes
      rw [hHost]
      exact ⟨List.prefix_append _ _, rfl⟩

/-- Building takes back nothing of what its search leaves. -/
theorem build_grows (r : Registry ω) {name : Text} (hName : Call.isName name = true)
    (host : Host ω) :
    let searched := (r.search name r.settings.extensionPackages host).state
    searched.log <+: (r.build name host).state.log ∧
      (r.build name host).state.probes = searched.probes := by
  intro searched
  rw [build_name r hName, Outcome.andThen]
  cases (r.search name r.settings.extensionPackages host).result with
  | error fault => exact ⟨List.prefix_rfl, rfl⟩
  | ok hit => exact conclude_grows r name hit searched

/-- Resolving a name without an entry leaves the host as building does. -/
theorem resolve_host {name : Text} {s : State ω} (r : Registry ω)
    (hNew : s.handles.get? (Text.lower name) = none) :
    (r.resolve name s).state.toHost = (r.build (Text.lower name) s.toHost).state := by
  rw [resolve_new rfl hNew, State.onHost, Outcome.andThen]
  cases (r.build (Text.lower name) s.toHost).result with
  | error fault => rfl
  | ok entry => rfl

/-- A search that goes past some packages has written their warnings, and has looked the next one
up, however it ends. -/
theorem resolve_passes {name : Text} {s : State ω}
    (hNew : s.handles.get? (Text.lower name) = none)
    (hName : Call.isName (Text.lower name) = true)
    (hPackages : r.settings.extensionPackages = before ++ package :: after)
    (hSkips : ∀ other ∈ before, r.Skips (Text.lower name) other) :
    s.log ++ r.warnings before <+: (r.resolve name s).state.log ∧
      s.probes ++ (before ++ [package]).map (moduleNameIn · (Text.lower name)) <+:
        (r.resolve name s).state.probes := by
  have hHost := resolve_host r hNew
  have hLog : (r.resolve name s).state.log = _ := congrArg Host.log hHost
  have hProbes : (r.resolve name s).state.probes = _ := congrArg Host.probes hHost
  obtain ⟨hGrows, hSame⟩ := build_grows r hName s.toHost
  rw [hPackages, search_skips hSkips] at hGrows hSame
  rw [hLog, hProbes, hSame, List.map_append, ← List.append_assoc]
  refine ⟨?_, search_first r _ package after (r.passed (Text.lower name) before s.toHost)⟩
  have hSearch := search_log r (Text.lower name) (package :: after)
    (r.passed (Text.lower name) before s.toHost)
  exact hSearch.isPrefix.trans hGrows

/-- Where a package in the way fails to be imported, resolving ends in that failure. The warnings
and the look-ups up to it stay, and nothing is remembered. -/
theorem resolve_block {name : Text} {s : State ω} (hNew : s.handles.get? (Text.lower name) = none)
    (hName : Call.isName (Text.lower name) = true)
    (h : r.Block (Text.lower name) before package after reason) :
    r.resolve name s = .error (.foreign .importing reason)
      { s with
        log := s.log ++ r.warnings before
        probes := s.probes ++ (before ++ [package]).map (moduleNameIn · (Text.lower name)) } := by
  have hSearch : ∀ host : Host ω, r.search (Text.lower name) (package :: after) host =
      .error (.foreign .importing reason)
        (host.probe (moduleNameIn package (Text.lower name))) := by
    intro host
    simp only [search, h.fails]
  rw [resolve_new rfl hNew, build_name r hName, h.packages, search_skips h.skips, hSearch,
    List.map_append, ← List.append_assoc]
  rfl

/-- Importing the module does not break, and its class for the name constructs a handler. -/
def Constructs (r : Registry ω) (name : Text) : Import (CommandModule ω) → Prop
  | .loaded commandModule => ∀ handlerClass,
    commandModule.handlerClass? (Handler.classNameOf name) = some handlerClass →
    ∀ world fault, (handlerClass.construct r.settings world).result ≠ .error fault
  | .crashed _ => False
  | _ => True

/-- It is enough that no package breaks and that every module constructs what it defines. -/
theorem Importing.of_modules
    (hPackages : ∀ package fault, r.environment.package package ≠ .crashed fault)
    (hModules : ∀ package found, r.environment.package package = .loaded found →
      ∀ name provided, found.module? name = some provided → r.Constructs name provided) :
    r.Importing where
  packages := fun package _ => hPackages package
  modules := fun package _ found hImport name fault hModule =>
    hModules package found hImport name (.crashed fault) hModule
  classes := by
    rintro handlerClass ⟨package, found, name, commandModule, hImport, hModule, hClass⟩
    exact hModules package found hImport name (.loaded commandModule) hModule handlerClass hClass

theorem constructs_plain (r : Registry ω) (name className : Text) :
    r.Constructs name (.loaded (.defining className .plain)) := by
  intro handlerClass hClass world fault
  dsimp only [CommandModule.defining] at hClass
  split at hClass
  · cases hClass
    nofun
  · cases hClass

/-- The modules of the bundled package are in order. -/
theorem constructs_bundled {clock : ω → Calendar.Moment} {name : Text}
    {provided : Import (CommandModule ω)} (r : Registry ω)
    (h : (Package.bundled clock).module? name = some provided) : r.Constructs name provided := by
  obtain ⟨commandModule, bundledClass, kind, rfl, hBundled, hConstruct⟩ := module?_bundled h
  intro handlerClass hClass world fault
  cases hBundled.symm.trans hClass
  rw [hConstruct]
  nofun

/-- A class that a module of a hit defines constructs its handler. -/
theorem Importing.constructs (h : r.Importing) {provided : Import (CommandModule ω)}
    {handlerClass : HandlerClass ω} (hHas : r.Has key package provided)
    (hOffers : Offers key provided (.ok handlerClass)) (world : ω) :
    ∃ handler world', handlerClass.construct r.settings world = ⟨.ok handler, world'⟩ := by
  obtain ⟨found, hImport, hModule⟩ := hHas
  cases hOffers with
  | @defining commandModule _ hClass =>
      have hNever := h.classes handlerClass
        ⟨package, found, key, commandModule, hImport, hModule, hClass⟩ world
      rcases hMade : handlerClass.construct r.settings world with ⟨result, world'⟩
      rw [hMade] at hNever
      cases result with
      | ok handler => exact ⟨handler, world', rfl⟩
      | error fault => exact absurd rfl (hNever fault)

/-- Where imports end as imports do, resolving has three ways to turn out and no other. Nothing is
raised but the failed import of a package. -/
theorem Importing.resolution (h : r.Importing) (name : Text) (s : State ω) :
    Resolution r name s := by
  cases hEntry : s.handles.get? (Text.lower name) with
  | some entry => exact .known entry hEntry (resolve_known r hEntry)
  | none =>
      cases hName : Call.isName (Text.lower name) with
      | false =>
          refine .decided [] none _ s.world s.nextSerial hEntry .notFound ?_
          rw [resolve_new rfl hEntry, build, hName, if_neg Bool.false_ne_true]
          simp only [settled, List.map_nil, List.append_nil]
          rfl
      | true =>
          rcases skips_or_stops r (Text.lower name) r.settings.extensionPackages with
            hAll | ⟨before, package, after, hPackages, hSkips, hStop⟩
          · exact .decided _ none _ s.world s.nextSerial hEntry .notFound
              (resolve_absent rfl hName hEntry hAll)
          · have hMem : package ∈ r.settings.extensionPackages := by
              rw [hPackages]
              exact List.mem_append_right _ List.mem_cons_self
            cases hImport : r.environment.package package with
            | crashed fault => exact absurd hImport (h.packages package hMem fault)
            | failed reason =>
                exact .blocked reason
                  ⟨hEntry, hName, before, package, after, hPackages, hSkips, hImport⟩
            | missing reason => exact absurd (.inl ⟨reason, hImport⟩) hStop
            | loaded found =>
                -- The package has a module of the name, and that comes to an entry in any case.
                have hOrderly : r.Orderly (Text.lower name) package :=
                  .inr ⟨found, hImport, h.modules package hMem found hImport _⟩
                rcases hOrderly.skips_or_has with hSkip | ⟨provided, offer, hHas, hOffers⟩
                · exact absurd hSkip hStop
                · have hHit : r.Hit (Text.lower name) before package after provided :=
                    ⟨hPackages, hSkips, hHas⟩
                  cases offer with
                  | error reason =>
                      refine .decided (before ++ [package]) none _ s.world s.nextSerial hEntry
                        (.loadFailed (moduleNameIn package (Text.lower name)) reason) ?_
                      rw [warnings_hit hHas]
                      exact resolve_failed rfl hName hEntry hHit hOffers
                  | ok handlerClass =>
                      obtain ⟨handler, world, hMade⟩ := h.constructs hHas hOffers s.world
                      refine .decided (before ++ [package]) _ _ world (s.nextSerial + 1) hEntry
                        (.loaded ⟨Text.lower name, moduleNameIn package (Text.lower name), handler,
                          s.nextSerial⟩) ?_
                      rw [warnings_hit hHas]
                      exact resolve_loaded rfl hName hEntry hHit hOffers hMade

/-- A blocked name comes to the failure of the package in its way. -/
theorem Blocked.resolve {name : Text} {s : State ω} (h : r.Blocked name s reason) :
    ∃ before package, r.resolve name s = .error (.foreign .importing reason)
      { s with
        log := s.log ++ r.warnings before
        probes := s.probes ++ (before ++ [package]).map (moduleNameIn · (Text.lower name)) } := by
  obtain ⟨hNew, hName, before, package, after, hBlock⟩ := h
  exact ⟨before, package, resolve_block hNew hName hBlock⟩

/-- Resolving succeeds unless the name is blocked. There is no other reason for it to fail. -/
theorem Importing.okUnless (h : r.Importing) (name : Text) (s : State ω) :
    OkUnless (r.Blocked name s) (r.resolve name s).result := by
  constructor
  · intro hFree
    cases h.resolution name s with
    | known entry _ hOutcome => exact ⟨entry, by rw [hOutcome]; rfl⟩
    | decided _ entry _ _ _ _ _ hOutcome => exact ⟨entry, by rw [hOutcome]; rfl⟩
    | blocked reason hBlocked => exact absurd hBlocked (hFree reason)
  · intro reason hBlocked
    obtain ⟨before, package, hOutcome⟩ := hBlocked.resolve
    rw [hOutcome]
    rfl

/-- Asking whether a name is known is resolving it and looking for a handle. -/
theorem isKnown_result (r : Registry ω) (name : Text) (s : State ω) :
    (r.isKnown name s).result = (r.resolve name s).result.map Option.isSome := by
  rw [isKnown, Outcome.andThen]
  cases (r.resolve name s).result with
  | error fault => rfl
  | ok entry => rfl

/-- A command is recognized if its name comes to an entry and preparing it does not break. -/
theorem recognize_okUnless {blocked : Text → Text → Prop} {e : Embedding}
    {command callText content : Text} {s : State ω}
    (hSplit : e.split? command = some (callText, content))
    (hPrepares : r.PreparesSafely e callText content s)
    (h : ∀ name, OkUnless (blocked name) (r.resolve name s).result) :
    OkUnless (fun reason => ∃ call, Call.parse callText = .ok call ∧ blocked call.name reason)
      (r.recognize e command s).result := by
  cases recognition hSplit s with
  | rejected rejection hParse hResult =>
      rw [hResult]
      refine ⟨fun _ => ⟨_, rfl⟩, ?_⟩
      rintro reason ⟨call, hCall, _⟩
      rw [hParse] at hCall
      cases hCall
  | broken call fault hParse hResolve hResult =>
      have hName := h call.name
      rw [hResolve] at hName
      rw [hResult]
      constructor
      · intro hFree
        obtain ⟨entry, hOk⟩ := hName.1 fun reason hBlocked => hFree reason ⟨call, hParse, hBlocked⟩
        cases hOk
      · rintro reason ⟨other, hOther, hBlocked⟩
        rw [hParse] at hOther
        cases hOther
        cases hName.2 reason hBlocked
        rfl
  | absent call hParse hResolve hResult =>
      rw [hResult]
      refine ⟨fun _ => ⟨_, rfl⟩, ?_⟩
      rintro reason ⟨other, hOther, hBlocked⟩
      rw [hParse] at hOther
      cases hOther
      cases hResolve.symm.trans ((h call.name).2 reason hBlocked)
  | found call handle hParse hResolve hOutcome =>
      rw [hOutcome]
      constructor
      · intro _
        have hSafe := hPrepares call handle hParse hResolve
        generalize prepare handle ⟨e.type, call.parameters, content⟩ (r.resolve call.name s).state =
          prepared at hSafe
        obtain ⟨result, last⟩ := prepared
        cases result with
        | ok payload => exact ⟨_, rfl⟩
        | error fault =>
            obtain ⟨message, rfl⟩ := hSafe fault rfl
            exact ⟨_, rfl⟩
      · rintro reason ⟨other, hOther, hBlocked⟩
        rw [hParse] at hOther
        cases hOther
        cases hResolve.symm.trans ((h call.name).2 reason hBlocked)

/-- In any state, whatever can be imported and whatever cannot, a name resolves unless its search
comes to a package that is there but fails to be imported. -/
theorem resolve_unless_blocked (h : r.Importing) (s : State ω) : Resolving r s where
  resolves := fun name => h.okUnless name s
  knows := by
    intro name
    rw [isKnown_result]
    obtain ⟨hOk, hError⟩ := h.okUnless name s
    constructor
    · intro hFree
      obtain ⟨entry, hEntry⟩ := hOk hFree
      exact ⟨entry.isSome, by rw [hEntry]; rfl⟩
    · intro reason hBlocked
      rw [hError reason hBlocked]
      rfl
  recognizes := fun _ _ _ _ hSplit hPrepares =>
    recognize_okUnless hSplit hPrepares fun name => h.okUnless name s
  passes := fun _ _ _ _ hNew hName hPackages hSkips => resolve_passes hNew hName hPackages hSkips
  blocks := fun _ _ _ _ _ hNew hName hBlock => resolve_block hNew hName hBlock

/-- A package that is missing, one that has the command, and one that fails behind it: what the
second one has resolves, anything else is blocked. -/
theorem resolve_unless_blocked_behind :
    let r : Registry Unit := {
      settings := { extensionPackages := ["gone".toList, "mine".toList, "broken".toList] }
      environment := ⟨fun package =>
        if package = "gone".toList then .missing package
        else if package = "mine".toList then
          .loaded (.ofModules [("do".toList, .defining "DoCommand".toList .plain)])
        else .failed package⟩ }
    let s : State Unit := .initial ()
    r.Importing ∧ r.PreparesSafely .inline "do".toList "x".toList s ∧
      (∃ p, (r.recognize .inline "%do(x)%".toList s).result = .ok p) ∧
      (r.resolve "Do".toList s).state.log =
        [.packageMissing "gone".toList, .loaded "do".toList "mine.do".toList] ∧
      r.Blocked "dt".toList s "broken".toList ∧
      (r.isKnown "dt".toList s).result = .error (.foreign .importing "broken".toList) := by
  intro r s
  have hImporting : r.Importing := by
    refine .of_modules ?_ ?_
    · intro package fault hCrash
      dsimp only [r] at hCrash
      split at hCrash
      · cases hCrash
      · split at hCrash <;> cases hCrash
    · intro package found hImport name provided hModule
      dsimp only [r] at hImport
      split at hImport
      · cases hImport
      · split at hImport
        · cases hImport
          obtain ⟨commandModule, hFind, rfl⟩ := Option.map_eq_some_iff.mp hModule
          rw [Table.find?] at hFind
          split at hFind
          · cases hFind
            exact constructs_plain r name _
          · cases hFind
        · cases hImport
  have hResolving := resolve_unless_blocked hImporting s
  have hSplit : Embedding.inline.split? "%do(x)%".toList = some ("do".toList, "x".toList) := rfl
  have hSafe : r.PreparesSafely .inline "do".toList "x".toList s := by
    intro call handle hParse hFound fault hFault
    cases hParse
    cases hFound
    cases hFault
  have hFree : ∀ call reason, Call.parse "do".toList = .ok call →
      ¬ r.Blocked call.name s reason := by
    intro call reason hParse hBlocked
    cases hParse
    cases (hResolving.resolves "do".toList).2 reason hBlocked
  have hBlocked : r.Blocked "dt".toList s "broken".toList := by
    refine ⟨rfl, rfl, ["gone".toList, "mine".toList], "broken".toList, [], rfl, ?_, rfl⟩
    intro other hOther
    rw [List.mem_cons, List.mem_singleton] at hOther
    rcases hOther with rfl | rfl
    · exact .inl ⟨_, rfl⟩
    · exact .inr ⟨_, rfl, rfl⟩
  refine ⟨hImporting, hSafe, ?_, rfl, hBlocked, (hResolving.knows "dt".toList).2 _ hBlocked⟩
  refine (hResolving.recognizes .inline _ _ _ hSplit hSafe).1 ?_
  rintro reason ⟨call, hParse, hBlocked⟩
  exact hFree call reason hParse hBlocked

/-- A package that fails to be imported keeps the bundled commands behind it from being found. -/
theorem resolve_blocked_bundled :
    let clock : Unit → Calendar.Moment := fun _ => ⟨⟨2024, 5, 1, by decide⟩, .midnight, none⟩
    let r : Registry Unit := {
      settings := { extensionPackages := ["broken".toList, bundledPackage] }
      environment := ⟨fun package =>
        if package = "broken".toList then .failed "bad package".toList
        else (Environment.bundled clock).package package⟩ }
    let s : State Unit := .initial ()
    r.Importing ∧
      (∀ package ∈ r.settings.extensionPackages, Settings.isDottedName package = true) ∧
      r.PreparesSafely .inline "dt".toList "2024-05-01".toList s ∧
      r.resolve "dt".toList s = .error (.foreign .importing "bad package".toList)
        { s with probes := ["broken.dt".toList] } ∧
      (r.isKnown "dt".toList s).result = .error (.foreign .importing "bad package".toList) ∧
      (r.recognize .inline "%dt(2024-05-01)%".toList s).result =
        .error (.foreign .importing "bad package".toList) ∧
      ∃ handle, ((r.withPackages [bundledPackage]).resolve "dt".toList s).result =
        .ok (some handle) := by
  intro clock r s
  have hImporting : r.Importing := by
    refine .of_modules ?_ ?_
    · intro package fault hCrash
      dsimp only [r, Environment.bundled] at hCrash
      split at hCrash
      · cases hCrash
      · split at hCrash <;> cases hCrash
    · intro package found hImport name provided hModule
      dsimp only [r, Environment.bundled] at hImport
      split at hImport
      · cases hImport
      · split at hImport
        · cases hImport
          exact constructs_bundled r hModule
        · cases hImport
  have hSafe : r.PreparesSafely .inline "dt".toList "2024-05-01".toList s := by
    intro call handle hParse hFound
    cases hParse
    cases hFound
  exact ⟨hImporting, by decide, hSafe, rfl, rfl, rfl, _, rfl⟩

end Registry

end CommandMarkup
