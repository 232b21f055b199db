import CommandMarkup.Proofs.Call.Spelling
import CommandMarkup.Proofs.Registry.Building

/-! Which package decides what a name comes to that was not met before. It is the first one that can
be imported and has a module of the name, the hit: those in front of it are passed over, and those
behind it are not looked at.

Main statement: `resolve_first_hit`. -/
namespace CommandMarkup

namespace Registry

variable {ω : Type} {r : Registry ω} {key package : Text} {before after : List Text}
  {provided : Import (CommandModule ω)}

/-- A search for the name passes the package over: it is missing, or it has no such module. -/
def Skips (r : Registry ω) (key package : Text) : Prop :=
  (∃ reason, r.environment.package package = .missing reason) ∨
    ∃ found, r.environment.package package = .loaded found ∧ found.module? key = none

/-- The package can be imported and has a module of the name. -/
def Has (r : Registry ω) (key package : Text) (provided : Import (CommandModule ω)) : Prop :=
  ∃ found, r.environment.package package = .loaded found ∧ found.module? key = some provided

/-- The hit of a search, with the packages in front of it and behind it. -/
structure Hit (r : Registry ω) (key : Text) (before : List Text) (package : Text)
    (after : List Text) (provided : Import (CommandModule ω)) : Prop where
  packages : r.settings.extensionPackages = before ++ package :: after
  skips : ∀ other ∈ before, r.Skips key other
  has : r.Has key package provided

/-- What a module comes to for the name: the class that it defines, or the reason for which there is
none. -/
inductive Offers (key : Text) : Import (CommandModule ω) → Except Text (HandlerClass ω) → Prop where
  | missing (reason : Text) : Offers key (.missing reason) (.error reason)
  | failed (reason : Text) : Offers key (.failed reason) (.error reason)
  | without {commandModule : CommandModule ω}
      (hClass : commandModule.handlerClass? (Handler.classNameOf key) = none) :
      Offers key (.loaded commandModule)
        (.error ("no CommandHandler subclass named ".toList ++ Handler.classNameOf key))
  | defining {commandModule : CommandModule ω} {handlerClass : HandlerClass ω}
      (hClass : commandModule.handlerClass? (Handler.classNameOf key) = some handlerClass) :
      Offers key (.loaded commandModule) (.ok handlerClass)

/-- The package is missing, or it can be imported and importing its module of the name, if it has
one, does not break. -/
def Orderly (r : Registry ω) (key package : Text) : Prop :=
  (∃ reason, r.environment.package package = .missing reason) ∨
    ∃ found, r.environment.package package = .loaded found ∧
      ∀ fault, found.module? key ≠ some (.crashed fault)

/-- The warnings that a search through the packages writes: one for each time that it comes to one
that is missing. -/
def warnings (r : Registry ω) (packages : List Text) : List Event :=
  packages.filterMap fun package =>
    match r.environment.package package with
    | .missing _ => some (.packageMissing package)
    | _ => none

/-- The registry with other packages. -/
def withPackages (r : Registry ω) (packages : List Text) : Registry ω :=
  { r with settings := { r.settings with extensionPackages := packages } }

/-- The host when a search has passed the packages over. -/
def passed (r : Registry ω) (key : Text) (packages : List Text) (host : Host ω) : Host ω :=
  { host with
    log := host.log ++ r.warnings packages
    probes := host.probes ++ packages.map (moduleNameIn · key) }

/-- The state when the name has been looked for in the packages, with that entry and those events to
show for it. -/
def settled (s : State ω) (key : Text) (packages : List Text) (entry : Option (Handle ω))
    (events : List Event) : State ω :=
  { s with
    handles := s.handles.put key entry
    log := s.log ++ events
    probes := s.probes ++ packages.map (moduleNameIn · key) }

/-- How a name that is not in the table comes to its entry. A class that fails to construct its
handler is no failure to load the module: the fault is passed on and nothing is remembered. -/
structure FirstHit (r : Registry ω) (name key : Text) (s : State ω) : Prop where
  decided : (∀ package ∈ r.settings.extensionPackages, r.Orderly key package) →
    (∀ package ∈ r.settings.extensionPackages, r.Skips key package) ∨
      ∃ before package after provided offer, r.Hit key before package after provided ∧
        Offers key provided offer
  unique : ∀ before package after provided, r.Hit key before package after provided →
    (¬ ∀ other ∈ r.settings.extensionPackages, r.Skips key other) ∧
      ∀ before' package' after' provided', r.Hit key before' package' after' provided' →
        before' = before ∧ package' = package ∧ after' = after ∧ provided' = provided
  loaded : ∀ before package after provided handlerClass handler world,
    r.Hit key before package after provided → Offers key provided (.ok handlerClass) →
    handlerClass.construct r.settings s.world = ⟨.ok handler, world⟩ →
    let handle : Handle ω := ⟨key, moduleNameIn package key, handler, s.nextSerial⟩
    r.resolve name s = .ok (some handle)
      { settled s key (before ++ [package]) (some handle)
          (r.warnings before ++ [.loaded key (moduleNameIn package key)]) with
        world
        nextSerial := s.nextSerial + 1 }
  raised : ∀ before package after provided handlerClass fault world,
    r.Hit key before package after provided → Offers key provided (.ok handlerClass) →
    handlerClass.construct r.settings s.world = ⟨.error fault, world⟩ →
    (∀ command source reason, fault ≠ .load command source reason) →
    r.resolve name s = .error fault
      { s with
        world
        log := s.log ++ (r.warnings before ++ [.loaded key (moduleNameIn package key)])
        probes := s.probes ++ (before ++ [package]).map (moduleNameIn · key) }
  failed : ∀ before package after provided reason,
    r.Hit key before package after provided → Offers key provided (.error reason) →
    r.resolve name s = .ok none
      (settled s key (before ++ [package]) none
        (r.warnings before ++ [.loadFailed key (moduleNameIn package key) reason, .notFound key]))
  absent : (∀ package ∈ r.settings.extensionPackages, r.Skips key package) →
    r.resolve name s = .ok none
      (settled s key r.settings.extensionPackages none
        (r.warnings r.settings.extensionPackages ++ [.notFound key]))
  /-- Other packages in front of the hit that are passed over too change nothing but warnings, other
  packages behind it change nothing. -/
  steady : ∀ before package after provided, r.Hit key before package after provided →
    ∀ before' after', (∀ other ∈ before', r.Skips key other) →
      let r' := r.withPackages (before' ++ package :: after')
      (∀ handlerClass, Offers key provided (.ok handlerClass) →
        handlerClass.construct r'.settings s.world = handlerClass.construct r.settings s.world) →
      (r'.resolve name s).result = (r.resolve name s).result ∧
        (∃ events, (r.resolve name s).state.log = s.log ++ (r.warnings before ++ events) ∧
          (r'.resolve name s).state.log = s.log ++ (r.warnings before' ++ events)) ∧
        (before' = before → r'.resolve name s = r.resolve name s)

theorem Has.not_skips (h : r.Has key package provided) : ¬ r.Skips key package := by
  obtain ⟨found, hImport, hModule⟩ := h
  rintro (⟨reason, hMissing⟩ | ⟨other, hOther, hNone⟩)
  · rw [hImport] at hMissing
    cases hMissing
  · rw [hImport] at hOther
    cases hOther
    rw [hModule] at hNone
    cases hNone

theorem Has.unique {other : Import (CommandModule ω)} (h : r.Has key package provided)
    (hOther : r.Has key package other) : other = provided := by
  obtain ⟨found, hImport, hModule⟩ := h
  obtain ⟨found', hImport', hModule'⟩ := hOther
  rw [hImport] at hImport'
  cases hImport'
  rw [hModule] at hModule'
  exact (Option.some.inj hModule').symm

/-- Where packages are parted at one that is not passed over, with all in front of it passed over,
there is one way to do it. -/
theorem split_unique {before' after' : List Text} {package' : Text}
    (hSplit : before ++ package :: after = before' ++ package' :: after')
    (hBefore : ∀ other ∈ before, r.Skips key other) (hPackage : ¬ r.Skips key package)
    (hBefore' : ∀ other ∈ before', r.Skips key other) (hPackage' : ¬ r.Skips key package') :
    before' = before ∧ package' = package ∧ after' = after := by
  induction before generalizing before' with
  | nil =>
      cases before' with
      | nil =>
          cases hSplit
          exact ⟨rfl, rfl, rfl⟩
      | cons first rest =>
          cases hSplit
          exact absurd (hBefore' _ List.mem_cons_self) hPackage
  | cons first rest ih =>
      cases before' with
      | nil =>
          cases hSplit
          exact absurd (hBefore _ List.mem_cons_self) hPackage'
      | cons first' rest' =>
          rw [List.cons_append, List.cons_append, List.cons.injEq] at hSplit
          obtain ⟨rfl, hRest⟩ := hSplit
          obtain ⟨rfl, hSame⟩ := ih hRest (fun other h => hBefore _ (List.mem_cons_of_mem _ h))
            (fun other h => hBefore' _ (List.mem_cons_of_mem _ h))
          exact ⟨rfl, hSame⟩

/-- There is one hit: the first package with a module is the same however the list is taken
apart. -/
theorem Hit.unique {before' after' : List Text} {package' : Text}
    {provided' : Import (CommandModule ω)} (h : r.Hit key before package after provided)
    (h' : r.Hit key before' package' after' provided') :
    before' = before ∧ package' = package ∧ after' = after ∧ provided' = provided := by
  obtain ⟨rfl, rfl, rfl⟩ := split_unique (h.packages.symm.trans h'.packages) h.skips h.has.not_skips
    h'.skips h'.has.not_skips
  exact ⟨rfl, rfl, rfl, h.has.unique h'.has⟩

theorem Hit.mem (h : r.Hit key before package after provided) :
    package ∈ r.settings.extensionPackages := by
  rw [h.packages]
  exact List.mem_append_right _ List.mem_cons_self

/-- A package in order is passed over, or it has a module that offers something for the name. -/
theorem Orderly.skips_or_has (h : r.Orderly key package) :
    r.Skips key package ∨
      ∃ provided offer, r.Has key package provided ∧ Offers key provided offer := by
  rcases h with hMissing | ⟨found, hImport, hModule⟩
  · exact .inl (.inl hMissing)
  · cases hProvided : found.module? key with
    | none => exact .inl (.inr ⟨found, hImport, hProvided⟩)
    | some provided =>
        have hHas : r.Has key package provided := ⟨found, hImport, hProvided⟩
        cases provided with
        | missing reason => exact .inr ⟨_, _, hHas, .missing reason⟩
        | failed reason => exact .inr ⟨_, _, hHas, .failed reason⟩
        | crashed fault => exact absurd hProvided (hModule fault)
        | loaded commandModule =>
            cases hClass : commandModule.handlerClass? (Handler.classNameOf key) with
            | none => exact .inr ⟨_, _, hHas, .without hClass⟩
            | some handlerClass => exact .inr ⟨_, _, hHas, .defining hClass⟩

/-- Packages are all passed over, or there is a first one that is not. -/
theorem skips_or_stops (r : Registry ω) (key : Text) (packages : List Text) :
    (∀ package ∈ packages, r.Skips key package) ∨
      ∃ before package after, packages = before ++ package :: after ∧
        (∀ other ∈ before, r.Skips key other) ∧ ¬ r.Skips key package := by
  induction packages with
  | nil => exact .inl nofun
  | cons package packages ih =>
      by_cases hFirst : r.Skips key package
      · rcases ih with hAll | ⟨before, stop, after, rfl, hBefore, hStop⟩
        · exact .inl (List.forall_mem_cons.mpr ⟨hFirst, hAll⟩)
        · exact .inr ⟨package :: before, stop, after, rfl,
            List.forall_mem_cons.mpr ⟨hFirst, hBefore⟩, hStop⟩
      · exact .inr ⟨[], package, packages, rfl, nofun, hFirst⟩

/-- Packages that do not break are all passed over, or there is a first one that is not. -/
theorem skips_or_splits {packages : List Text}
    (h : ∀ package ∈ packages, r.Orderly key package) :
    (∀ package ∈ packages, r.Skips key package) ∨
      ∃ before package after provided offer, packages = before ++ package :: after ∧
        (∀ other ∈ before, r.Skips key other) ∧ r.Has key package provided ∧
        Offers key provided offer := by
  rcases skips_or_stops r key packages with
    hAll | ⟨before, package, after, hPackages, hBefore, hStop⟩
  · exact .inl hAll
  · have hMem : package ∈ packages := by
      rw [hPackages]
      exact List.mem_append_right _ List.mem_cons_self
    rcases (h package hMem).skips_or_has with hSkip | ⟨provided, offer, hHas, hOffers⟩
    · exact absurd hSkip hStop
    · exact .inr ⟨before, package, after, provided, offer, hPackages, hBefore, hHas, hOffers⟩

/-- Passing over one more package writes a warning exactly if it is missing. -/
theorem search_skip (h : r.Skips key package) (packages : List Text) (host : Host ω) :
    r.search key (package :: packages) host =
      r.search key packages (r.passed key [package] host) := by
  rcases h with ⟨reason, hImport⟩ | ⟨found, hImport, hModule⟩
  · simp only [search, hImport, passed, warnings, List.filterMap_cons, List.filterMap_nil,
      List.map_cons, List.map_nil, Host.note, Host.probe]
  · simp only [search, hImport, hModule, passed, warnings, List.filterMap_cons, List.filterMap_nil,
      List.map_cons, List.map_nil, Host.probe, List.append_nil]

theorem passed_append (r : Registry ω) (key : Text) (packages more : List Text) (host : Host ω) :
    r.passed key more (r.passed key packages host) = r.passed key (packages ++ more) host := by
  simp only [passed, warnings, List.filterMap_append, List.map_append, List.append_assoc]

/-- A search goes on behind the packages that it passes over. -/
theorem search_skips (h : ∀ other ∈ before, r.Skips key other) (packages : List Text)
    (host : Host ω) :
    r.search key (before ++ packages) host = r.search key packages (r.passed key before host) := by
  induction before generalizing host with
  | nil => simp only [List.nil_append, passed, warnings, List.filterMap_nil, List.map_nil,
      List.append_nil]
  | cons first rest ih =>
      rw [List.forall_mem_cons] at h
      rw [List.cons_append, search_skip h.1, ih h.2, passed_append]
      rfl

/-- A search stops at the hit. -/
theorem search_has (h : r.Has key package provided) (packages : List Text) (host : Host ω) :
    r.search key (package :: packages) host =
      .ok (some (moduleNameIn package key, provided)) (r.passed key [package] host) := by
  obtain ⟨found, hImport, hModule⟩ := h
  simp only [search, hImport, hModule, passed, warnings, List.filterMap_cons, List.filterMap_nil,
    List.map_cons, List.map_nil, Host.probe, List.append_nil]

theorem warnings_hit (h : r.Has key package provided) (before : List Text) :
    r.warnings (before ++ [package]) = r.warnings before := by
  obtain ⟨found, hImport, _⟩ := h
  simp only [warnings, List.filterMap_append, List.filterMap_cons, hImport, List.filterMap_nil,
    List.append_nil]

/-- Building comes to what the module of the hit makes of it, after the packages in front of it were
passed over. -/
theorem build_hit (hName : Call.isName key = true) (h : r.Hit key before package after provided)
    (host : Host ω) :
    r.build key host = r.conclude key (some (moduleNameIn package key, provided))
      (r.passed key (before ++ [package]) host) := by
  rw [build_name r hName, h.packages, search_skips h.skips, search_has h.has, passed_append]
  rfl

theorem build_skips (hName : Call.isName key = true)
    (h : ∀ package ∈ r.settings.extensionPackages, r.Skips key package) (host : Host ω) :
    r.build key host = giveUp key (r.passed key r.settings.extensionPackages host) := by
  have hSearch := search_skips h [] host
  rw [List.append_nil] at hSearch
  rw [build_name r hName, hSearch]
  rfl

/-- With that world and that serial number at hand, an operation has one result, adds the same to
the log, and looks nothing up. -/
def Writes {α : Type} (world : ω) (serial : Nat) (f : Host ω → Outcome (Host ω) α) : Prop :=
  ∃ result events world' serial', ∀ log probes,
    f ⟨world, log, probes, serial⟩ = ⟨result, ⟨world', log ++ events, probes, serial'⟩⟩

theorem writes_error {α : Type} {f : Host ω → Outcome (Host ω) α} (fault : Fault)
    (h : ∀ host, f host = .error fault host) (world : ω) (serial : Nat) :
    Writes world serial f := by
  refine ⟨.error fault, [], world, serial, fun log probes => ?_⟩
  rw [h, List.append_nil]
  rfl

/-- Loading adds the same to every log, and looks no further module up. -/
theorem load_writes (r : Registry ω) (key moduleName : Text) (provided : Import (CommandModule ω))
    (world : ω) (serial : Nat) : Writes world serial (r.load key moduleName provided) := by
  cases provided with
  | missing reason => exact writes_error _ (fun _ => rfl) world serial
  | failed reason => exact writes_error _ (fun _ => rfl) world serial
  | crashed fault => exact writes_error _ (fun _ => rfl) world serial
  | loaded commandModule =>
      cases hClass : commandModule.handlerClass? (Handler.classNameOf key) with
      | none =>
          refine writes_error (.load key moduleName
            ("no CommandHandler subclass named ".toList ++ Handler.classNameOf key)) ?_ world serial
          intro host
          simp only [load, hClass]
      | some handlerClass =>
          rcases hMade : handlerClass.construct r.settings world with ⟨result, world'⟩
          cases result with
          | ok handler =>
              refine ⟨.ok ⟨key, moduleName, handler, serial⟩, [.loaded key moduleName], world',
                serial + 1, fun log probes => ?_⟩
              simp only [load, hClass, Host.note, hMade, Host.newHandle, Outcome.ok]
          | error fault =>
              refine ⟨.error fault, [.loaded key moduleName], world', serial, fun log probes => ?_⟩
              simp only [load, hClass, Host.note, hMade, Outcome.error]

theorem settle_writes (key : Text) {f : Host ω → Outcome (Host ω) (Handle ω)} {world : ω}
    {serial : Nat} (h : Writes world serial f) :
    Writes world serial (fun host => settle key (f host)) := by
  obtain ⟨result, events, world', serial', hf⟩ := h
  cases result with
  | ok handle =>
      exact ⟨.ok (some handle), events, world', serial', fun log probes =>
        congrArg (settle key) (hf log probes)⟩
  | error fault =>
      cases fault
      case load command source reason =>
        refine ⟨.ok none, events ++ [.loadFailed command source reason, .notFound key], world',
          serial', fun log probes => ?_⟩
        dsimp only
        rw [hf]
        simp [settle, giveUp, Outcome.ok, Host.note]
      all_goals exact ⟨.error _, events, world', serial', fun log probes =>
        congrArg (settle key) (hf log probes)⟩

/-- Of the settings, loading depends on nothing but what the class constructs from them. -/
theorem conclude_congr {r' : Registry ω} {moduleName : Text} {host : Host ω}
    (hAlike : ∀ handlerClass, Offers key provided (.ok handlerClass) →
      handlerClass.construct r'.settings host.world =
        handlerClass.construct r.settings host.world) :
    r'.conclude key (some (moduleName, provided)) host =
      r.conclude key (some (moduleName, provided)) host := by
  have hLoad : r'.load key moduleName provided host = r.load key moduleName provided host := by
    cases provided with
    | missing reason => rfl
    | failed reason => rfl
    | crashed fault => rfl
    | loaded commandModule =>
        cases hClass : commandModule.handlerClass? (Handler.classNameOf key) with
        | none => simp only [load, hClass]
        | some handlerClass =>
            have hSame := hAlike handlerClass (.defining hClass)
            simp only [load, hClass, Host.note, hSame]
  rw [conclude, conclude, hLoad]

section

variable {name : Text} {s : State ω} (hKey : Text.lower name = key)
  (hName : Call.isName key = true) (hNew : s.handles.get? key = none)

include hKey hNew in
theorem resolve_new : r.resolve name s =
    (s.onHost (r.build key s.toHost)).andThen fun entry s => .ok entry (s.remember key entry) := by
  subst hKey
  simp only [resolve, hNew]

include hKey hName hNew

theorem resolve_hit (h : r.Hit key before package after provided) :
    r.resolve name s = (s.onHost (r.conclude key (some (moduleNameIn package key, provided))
      (r.passed key (before ++ [package]) s.toHost))).andThen fun entry s =>
        .ok entry (s.remember key entry) := by
  rw [resolve_new hKey hNew, build_hit hName h]

/-- Where the class of the hit constructs a handler, the name resolves to a handle for it, which is
remembered. Warnings of the packages in front come before the line of the handler. -/
theorem resolve_loaded (h : r.Hit key before package after provided)
    {handlerClass : HandlerClass ω} {handler : Handler ω} {world : ω}
    (hOffers : Offers key provided (.ok handlerClass))
    (hConstruct : handlerClass.construct r.settings s.world = ⟨.ok handler, world⟩) :
    let handle : Handle ω := ⟨key, moduleNameIn package key, handler, s.nextSerial⟩
    r.resolve name s = .ok (some handle)
      { settled s key (before ++ [package]) (some handle)
          (r.warnings before ++ [.loaded key (moduleNameIn package key)]) with
        world
        nextSerial := s.nextSerial + 1 } := by
  intro handle
  rw [resolve_hit hKey hName hNew h]
  cases hOffers with
  | defining hClass =>
      simp only [conclude, load, hClass, Host.note, passed, hConstruct, Host.newHandle, Outcome.ok,
        settle, warnings_hit h.has, List.append_assoc]
      rfl

/-- Where the class fails, its fault is passed on and nothing is remembered, though the line of the
handler is written. -/
theorem resolve_raised (h : r.Hit key before package after provided)
    {handlerClass : HandlerClass ω} {fault : Fault} {world : ω}
    (hOffers : Offers key provided (.ok handlerClass))
    (hConstruct : handlerClass.construct r.settings s.world = ⟨.error fault, world⟩)
    (hFault : ∀ command source reason, fault ≠ .load command source reason) :
    r.resolve name s = .error fault
      { s with
        world
        log := s.log ++ (r.warnings before ++ [.loaded key (moduleNameIn package key)])
        probes := s.probes ++ (before ++ [package]).map (moduleNameIn · key) } := by
  have hSettle : ∀ host : Host ω, settle key (.error fault host) = .error fault host := by
    intro host
    cases fault
    case load command source reason => exact absurd rfl (hFault command source reason)
    all_goals rfl
  rw [resolve_hit hKey hName hNew h]
  cases hOffers with
  | defining hClass =>
      simp only [conclude, load, hClass, Host.note, passed, hConstruct, hSettle, warnings_hit h.has,
        List.append_assoc]
      rfl

/-- A module that offers no class leaves the name without a handler, with the reason in the log;
later packages are not looked into. -/
theorem resolve_failed (h : r.Hit key before package after provided) {reason : Text}
    (hOffers : Offers key provided (.error reason)) :
    r.resolve name s = .ok none
      (settled s key (before ++ [package]) none
        (r.warnings before ++
          [.loadFailed key (moduleNameIn package key) reason, .notFound key])) := by
  have hLoad : ∀ host : Host ω, r.load key (moduleNameIn package key) provided host =
      .error (.load key (moduleNameIn package key) reason) host := by
    intro host
    cases hOffers with
    | missing => rfl
    | failed => rfl
    | without hClass => simp only [load, hClass]
  rw [resolve_hit hKey hName hNew h]
  simp only [conclude, hLoad, Outcome.error, settle, giveUp, Host.note, passed, warnings_hit h.has,
    List.append_assoc]
  rfl

/-- Where no package has a module of the name, all of them have been looked into. -/
theorem resolve_absent (h : ∀ package ∈ r.settings.extensionPackages, r.Skips key package) :
    r.resolve name s = .ok none
      (settled s key r.settings.extensionPackages none
        (r.warnings r.settings.extensionPackages ++ [.notFound key])) := by
  rw [resolve_new hKey hNew, build_skips hName h]
  simp only [giveUp, Host.note, passed, List.append_assoc]
  rfl

/-- Packages behind the hit do not matter, and those in front of it matter only for their
warnings. -/
theorem resolve_steady (h : r.Hit key before package after provided) {before' after' : List Text}
    (hSkips : ∀ other ∈ before', r.Skips key other) :
    let r' := r.withPackages (before' ++ package :: after')
    (∀ handlerClass, Offers key provided (.ok handlerClass) →
      handlerClass.construct r'.settings s.world = handlerClass.construct r.settings s.world) →
    (r'.resolve name s).result = (r.resolve name s).result ∧
      (∃ events, (r.resolve name s).state.log = s.log ++ (r.warnings before ++ events) ∧
        (r'.resolve name s).state.log = s.log ++ (r.warnings before' ++ events)) ∧
      (before' = before → r'.resolve name s = r.resolve name s) := by
  intro r' hAlike
  have h' : r'.Hit key before' package after' provided := ⟨rfl, hSkips, h.has⟩
  -- What either search leaves of the host differs in the log and the look-ups alone.
  obtain ⟨result, events, world, serial, hWrites⟩ := settle_writes key
    (load_writes r key (moduleNameIn package key) provided s.world s.nextSerial)
  have hConclude : ∀ packages, r.conclude key (some (moduleNameIn package key, provided))
      (r.passed key packages s.toHost) =
        ⟨result, ⟨world, s.log ++ r.warnings packages ++ events,
          s.probes ++ packages.map (moduleNameIn · key), serial⟩⟩ :=
    fun packages => hWrites _ _
  have hHere := resolve_hit hKey hName hNew h
  have hThere := resolve_hit hKey hName hNew h'
  have hSame : r'.conclude key (some (moduleNameIn package key, provided))
      (r'.passed key (before' ++ [package]) s.toHost) =
        r.conclude key (some (moduleNameIn package key, provided))
          (r.passed key (before' ++ [package]) s.toHost) := conclude_congr hAlike
  rw [hSame] at hThere
  rw [hConclude, warnings_hit h.has, List.append_assoc] at hHere hThere
  rw [hHere, hThere]
  refine ⟨?_, ⟨events, ?_, ?_⟩, ?_⟩
  · cases result <;> rfl
  · cases result <;> rfl
  · cases result <;> rfl
  · rintro rfl
    rfl

end

/-- The first hit decides what a name comes to that is not in the table. -/
theorem resolve_first_hit (r : Registry ω) {name : Text} {s : State ω}
    (hName : Call.isName name = true) (hNew : s.handles.get? (Text.lower name) = none) :
    FirstHit r name (Text.lower name) s := by
  have hLower : Call.isName (Text.lower name) = true := by
    rw [Call.lower_name hName, Call.isName_map_toLower, hName]
  constructor
  case decided =>
    intro hOrderly
    rcases skips_or_splits hOrderly with hAll | ⟨before, hit, after, provided, offer, hPackages,
      hBefore, hHas, hOffers⟩
    · exact .inl hAll
    · exact .inr ⟨before, hit, after, provided, offer, ⟨hPackages, hBefore, hHas⟩, hOffers⟩
  case unique =>
    intro before hit after provided h
    exact ⟨fun hAll => h.has.not_skips (hAll hit h.mem), fun _ _ _ _ h' => h.unique h'⟩
  case loaded =>
    intro before hit after provided handlerClass handler world h hOffers hConstruct
    exact resolve_loaded rfl hLower hNew h hOffers hConstruct
  case raised =>
    intro before hit after provided handlerClass fault world h hOffers hConstruct hFault
    exact resolve_raised rfl hLower hNew h hOffers hConstruct hFault
  case failed =>
    intro before hit after provided reason h hOffers
    exact resolve_failed rfl hLower hNew h hOffers
  case absent => exact resolve_absent rfl hLower hNew
  case steady =>
    intro before hit after provided h before' after' hSkips
    exact resolve_steady rfl hLower hNew h hSkips

/-- A package that is missing twice, one without the module, and the hit; whatever stands behind it
changes nothing. -/
theorem resolve_first_hit_fourth :
    let r : Registry Unit := {
      settings := { extensionPackages :=
        ["gone".toList, "bare".toList, "gone".toList, "mine".toList, "gone".toList] }
      environment := ⟨fun package =>
        if package = "mine".toList then
          .loaded (.ofModules [("do".toList, .defining "DoCommand".toList .plain)])
        else if package = "bare".toList then .loaded (.ofModules [])
        else .missing package⟩ }
    let s : State Unit := .initial ()
    let handle : Handle Unit :=
      ⟨"do".toList, "mine.do".toList, .plain "CommandHandler".toList, 0⟩
    Call.isName "Do".toList = true ∧ s.handles.get? (Text.lower "Do".toList) = none ∧
      r.resolve "Do".toList s = .ok (some handle)
        { s with
          handles := s.handles.put "do".toList (some handle)
          log := [.packageMissing "gone".toList, .packageMissing "gone".toList,
            .loaded "do".toList "mine.do".toList]
          probes := ["gone.do".toList, "bare.do".toList, "gone.do".toList, "mine.do".toList]
          nextSerial := 1 } ∧
      ∀ after, (r.withPackages
        (["gone".toList, "bare".toList, "gone".toList] ++ "mine".toList :: after)).resolve
          "Do".toList s = r.resolve "Do".toList s := by
  intro r s handle
  have hName : Call.isName "Do".toList = true := by decide
  have hNew : s.handles.get? (Text.lower "Do".toList) = none := rfl
  have hFirst := resolve_first_hit r hName hNew
  have hSkips : ∀ other ∈ ["gone".toList, "bare".toList, "gone".toList],
      r.Skips "do".toList other := by
    intro other hOther
    rw [List.mem_cons, List.mem_cons, List.mem_singleton] at hOther
    rcases hOther with rfl | rfl | rfl
    · exact .inl ⟨"gone".toList, rfl⟩
    · exact .inr ⟨.ofModules [], rfl, rfl⟩
    · exact .inl ⟨"gone".toList, rfl⟩
  have hHit : r.Hit "do".toList ["gone".toList, "bare".toList, "gone".toList] "mine".toList
      ["gone".toList] (.loaded (.defining "DoCommand".toList .plain)) := ⟨rfl, hSkips, _, rfl, rfl⟩
  have hOffers : Offers "do".toList (.loaded (.defining "DoCommand".toList .plain))
      (.ok (.plain : HandlerClass Unit)) := .defining rfl
  refine ⟨hName, hNew, ?_, ?_⟩
  · exact hFirst.loaded _ _ _ _ _ _ () hHit hOffers rfl
  · intro after
    refine (hFirst.steady _ _ _ _ hHit _ after hSkips ?_).2.2 rfl
    intro handlerClass hOffered
    cases hOffered with
    | defining hClass =>
        obtain rfl : (.plain : HandlerClass Unit) = handlerClass := Option.some.inj hClass
        rfl

end Registry

end CommandMarkup
