import CommandMarkup.Proofs.Handler.Bundled
import CommandMarkup.Proofs.Registry.Store
import CommandMarkup.Registry.Bundled

/-! Registries that come to hold no handlers but those of one kind, because nothing else is loaded,
registered or passed, and registries of the bundled commands in particular. In these no name fails
to resolve, one way or the other. -/
namespace CommandMarkup.Registry

variable {ω : Type}

/-- All handlers that the action brings in from outside have the property. -/
structure Action.Uses (P : Handler ω → Prop) (r : Registry ω) (a : Action ω) : Prop where
  passes : ∀ handle, a.passed = some handle → P handle.handler
  registers : ∀ name source, a = .register name source →
    ∀ handler, source.Yields r.settings handler → P handler

/-- The same for all actions of a run, and for all modules that names can be loaded from. -/
structure UsesOnly (P : Handler ω → Prop) (r : Registry ω) (as : List (Action ω)) : Prop where
  loads : ∀ handle, r.Loads handle → P handle.handler
  uses : ∀ a ∈ as, a.Uses P r

/-- All handlers that a registry remembers have the property, bound ones too. -/
structure Holds (P : Handler ω → Prop) (s : State ω) : Prop where
  handles : ∀ key handle, s.handles.get? key = some (some handle) → P handle.handler
  targets : ∀ name operation target, s.targets.get? (name, operation) = some target →
    P target.handler

/-- The handler that an operation of a handle is done by: that of the target bound already, or its
own. -/
def boundHandler (handle : Handle ω) (operation : Operation) (s : State ω) : Handler ω :=
  match s.targets.get? (handle.name, operation) with
  | some target => target.handler
  | none => handle.handler

/-- Binding gives the target of the handler that is bound, and leaves the world alone. -/
theorem bind_boundHandler (handle : Handle ω) (operation : Operation) (s : State ω) :
    ∃ target after, bind handle operation s = .ok target after ∧
      target.handler = boundHandler handle operation s ∧ after.world = s.world := by
  rw [boundHandler]
  cases hTarget : s.targets.get? (handle.name, operation) with
  | some target => exact ⟨target, s, bind_known hTarget, rfl, rfl⟩
  | none => exact ⟨_, _, bind_new hTarget, rfl, rfl⟩

section Holding

variable {P : Handler ω → Prop} {r : Registry ω} {s : State ω}

/-- A property of all handlers is kept by each step that brings in none without it. -/
theorem holds_after (hLoads : ∀ handle, r.Loads handle → P handle.handler) {x : Step ω}
    (hRegister : ∀ name source, x = .register name source →
      ∀ handler, source.Yields r.settings handler → P handler)
    (hBind : ∀ handle operation, x = .bind handle operation → P handle.handler)
    (h : Holds P s) : Holds P (x.after r s) where
  handles := by
    intro key handle hHandle
    rcases Step.held_after hHandle with hHeld | ⟨_, hMade⟩
    · exact h.handles key handle hHeld
    · rcases hMade.makes with hLoaded | ⟨name, source, hStep, _, hYields, _⟩
      · exact hLoads handle hLoaded
      · exact hRegister name source hStep handle.handler hYields
  targets := by
    intro name operation target hTarget
    cases Step.slot_after r x s name operation with
    | kept hSame => exact h.targets name operation target (hSame.symm.trans hTarget)
    | made handle hStep _ _ hAfter =>
        rw [hAfter] at hTarget
        cases hTarget
        exact hBind handle operation hStep

theorem holds_resolve (hLoads : ∀ handle, r.Loads handle → P handle.handler) (h : Holds P s)
    (name : Text) : Holds P (r.resolve name s).state :=
  holds_after hLoads (x := .resolve name) nofun nofun h

theorem holds_action (hLoads : ∀ handle, r.Loads handle → P handle.handler) {a : Action ω}
    (hUses : a.Uses P r) (h : Holds P s) : Holds P (a.after r s) := by
  rw [← afterAll_steps]
  refine afterAll_keeps ?_ h
  intro x hx t ht
  refine holds_after hLoads ?_ ?_ ht
  · intro name source hStep
    subst hStep
    cases Action.part_of_mem_steps hx with
    | register hAction => exact hUses.registers name source hAction
  · intro handle operation hStep
    subst hStep
    cases Action.part_of_mem_steps hx with
    | passed hPassed _ => exact hUses.passes handle hPassed
    | @found name _ _ _ _ hFound _ =>
        exact (holds_resolve hLoads h name).handles _ handle (resolve_held hFound)

/-- Where a run brings in no handlers but those with the property, the registry holds no others
after it. -/
theorem holds_run {as : List (Action ω)} (hOnly : UsesOnly P r as) (h : Holds P s) :
    Holds P (run r as s) := by
  obtain ⟨hLoads, hUses⟩ := hOnly
  induction as generalizing s with
  | nil => exact h
  | cons a as ih =>
      have hHead := holds_action hLoads (hUses a List.mem_cons_self) h
      exact ih hHead fun b hb => hUses b (List.mem_cons_of_mem _ hb)

theorem holds_start (P : Handler ω → Prop) (host : Host ω) : Holds P (start host) :=
  ⟨nofun, nofun⟩

/-- The handler that an operation of a handle is done by has the property if that of the handle has
it. -/
theorem holds_boundHandler {handle : Handle ω} (hHandle : P handle.handler) (h : Holds P s)
    (operation : Operation) : P (boundHandler handle operation s) := by
  rw [boundHandler]
  cases hTarget : s.targets.get? (handle.name, operation) with
  | some target => exact h.targets _ _ _ hTarget
  | none => exact hHandle

end Holding

/-- The handler is that of a bundled command, constructed with those settings. -/
def IsBundled (clock : ω → Calendar.Moment) (settings : Settings) (handler : Handler ω) : Prop :=
  ∃ kind : Handler.Bundled, handler = kind.handler clock settings

/-- The registry has the bundled package and looks for commands nowhere else. -/
structure BundledOnly (clock : ω → Calendar.Moment) (r : Registry ω) : Prop where
  packages : r.settings.extensionPackages = [bundledPackage]
  provided : r.environment.package bundledPackage = .loaded (.bundled clock)

/-- The environment of the bundled package, with settings that name no other. -/
theorem bundledOnly_bundled (clock : ω → Calendar.Moment) {settings : Settings}
    (h : settings.extensionPackages = [bundledPackage]) :
    BundledOnly clock ⟨settings, .bundled clock⟩ where
  packages := h
  provided := by
    dsimp only [Environment.bundled]
    rw [if_pos rfl]

theorem handlerClass?_defining {className asked : Text} (h : asked = className)
    (handlerClass : HandlerClass ω) :
    (CommandModule.defining className handlerClass).handlerClass? asked = some handlerClass :=
  if_pos h

/-- A module of the bundled package defines the class that its command asks for, and constructing
it always succeeds with the handler of that command. -/
theorem module?_bundled {clock : ω → Calendar.Moment} {name : Text}
    {provided : Import (CommandModule ω)}
    (h : (Package.bundled clock).module? name = some provided) :
    ∃ commandModule handlerClass, ∃ kind : Handler.Bundled, provided = .loaded commandModule ∧
      commandModule.handlerClass? (Handler.classNameOf name) = some handlerClass ∧
      ∀ settings world, handlerClass.construct settings world =
        ⟨.ok (kind.handler clock settings), world⟩ := by
  obtain ⟨commandModule, hFind, rfl⟩ := Option.map_eq_some_iff.mp h
  rw [Table.find?] at hFind
  split at hFind
  · next hName =>
    cases hFind
    subst hName
    exact ⟨_, _, .dateTime, rfl, handlerClass?_defining rfl _, fun _ _ => rfl⟩
  · rw [Table.find?] at hFind
    split at hFind
    · next hName =>
      cases hFind
      subst hName
      exact ⟨_, _, .abstract, rfl, handlerClass?_defining rfl _, fun _ _ => rfl⟩
    · cases hFind

/-- Loading a module of the bundled package comes to the same handler every time, and leaves the
world alone. -/
theorem load_bundled {clock : ω → Calendar.Moment} {name : Text}
    {provided : Import (CommandModule ω)}
    (h : (Package.bundled clock).module? name = some provided) :
    ∃ kind : Handler.Bundled, ∀ (r : Registry ω) (moduleName : Text) (host : Host ω),
      ∃ handle after, r.load name moduleName provided host = ⟨.ok handle, after⟩ ∧
        handle.handler = kind.handler clock r.settings ∧ after.world = host.world := by
  obtain ⟨commandModule, handlerClass, kind, rfl, hClass, hConstruct⟩ := module?_bundled h
  refine ⟨kind, ?_⟩
  intro r moduleName host
  rw [load]
  dsimp only
  rw [hClass]
  dsimp only [Host.note]
  rw [hConstruct]
  exact ⟨_, _, rfl, rfl, rfl⟩

namespace BundledOnly

variable {clock : ω → Calendar.Moment} {r : Registry ω}

/-- What a registry of bundled commands loads is bundled. -/
theorem loads (h : BundledOnly clock r) (handle : Handle ω) (hLoads : r.Loads handle) :
    IsBundled clock r.settings handle.handler := by
  obtain ⟨package, hPackage, found, commandModule, handlerClass, hImport, hModule, hClass, hYields,
    _⟩ := hLoads
  rw [h.packages, List.mem_singleton] at hPackage
  subst hPackage
  rw [h.provided] at hImport
  cases hImport
  obtain ⟨_, bundledClass, kind, hLoaded, hBundledClass, hConstruct⟩ := module?_bundled hModule
  cases hLoaded
  rw [hBundledClass] at hClass
  cases hClass
  obtain ⟨world, hResult⟩ := hYields
  rw [hConstruct] at hResult
  exact ⟨kind, (Except.ok.inj hResult).symm⟩

/-- Building fails for no name where the bundled package is the only one. -/
theorem build_total (h : BundledOnly clock r) (name : Text) (host : Host ω) :
    ∃ entry after, r.build name host = ⟨.ok entry, after⟩ := by
  rw [build]
  split
  · rw [h.packages, search, h.provided]
    dsimp only
    cases hModule : (Package.bundled clock).module? name with
    | none => exact ⟨none, _, rfl⟩
    | some provided =>
        obtain ⟨kind, hLoads⟩ := load_bundled hModule
        obtain ⟨handle, after, hLoad, _⟩ := hLoads r (moduleNameIn bundledPackage name)
          (host.probe (moduleNameIn bundledPackage name))
        dsimp only [Outcome.ok, Outcome.andThen]
        rw [hLoad]
        exact ⟨some handle, after, rfl⟩
  · exact ⟨none, _, rfl⟩

/-- Every name resolves, to a handle or to none. -/
theorem resolve_total (h : BundledOnly clock r) (name : Text) (s : State ω) :
    ∃ entry, r.resolve name s = .ok entry (r.resolve name s).state := by
  rcases resolve_cases r name s with ⟨entry, _, hResolve⟩ | ⟨_, entry, host, _, hResolve⟩ |
    ⟨_, fault, host, hBuild, _⟩
  · exact ⟨entry, by rw [hResolve]; rfl⟩
  · exact ⟨entry, by rw [hResolve]; rfl⟩
  · obtain ⟨entry, after, hBuilt⟩ := h.build_total (Text.lower name) s.toHost
    rw [hBuilt] at hBuild
    cases hBuild

end BundledOnly

/-- If the search for the name finds anything, it is the bundled module of the name. -/
def FindsBundled (clock : ω → Calendar.Moment) (r : Registry ω) (name : Text) : Prop :=
  ∀ host moduleName provided,
    (r.search name r.settings.extensionPackages host).result = .ok (some (moduleName, provided)) →
    (Package.bundled clock).module? name = some provided

/-- Then building comes to the same bundled command on every host, or to no command on any, and
leaves the world alone. -/
theorem build_bundled {clock : ω → Calendar.Moment} {r : Registry ω} {name : Text}
    (h : FindsBundled clock r name) : ∃ found : Except Fault (Option Handler.Bundled),
      ∀ host, (r.build name host).state.world = host.world ∧
        (r.build name host).result.map (Option.map fun handle (_ : Operation) => handle.handler) =
          found.map (Option.map fun kind _ => kind.handler clock r.settings) := by
  cases hName : Call.isName name with
  | false =>
      refine ⟨.ok none, ?_⟩
      intro host
      rw [build, hName]
      exact ⟨rfl, rfl⟩
  | true =>
      rcases isEmpty_or_nonempty (Host ω) with hEmpty | hHost
      · exact ⟨.ok none, fun host => hEmpty.elim host⟩
      obtain ⟨first⟩ := hHost
      -- The search settles it, and comes to the same on every host.
      have hSame : ∀ host, ∃ searched, r.search name r.settings.extensionPackages host =
          ⟨(r.search name r.settings.extensionPackages first).result, searched⟩ ∧
          searched.world = host.world := by
        intro host
        refine ⟨_, ?_, search_world r name r.settings.extensionPackages host⟩
        rw [search_result r name r.settings.extensionPackages first host]
      have hFinds := h first
      cases hResult : (r.search name r.settings.extensionPackages first).result with
      | error fault =>
          refine ⟨.error fault, ?_⟩
          intro host
          obtain ⟨searched, hSearch, hWorld⟩ := hSame host
          rw [build, hName, if_pos rfl, hSearch, hResult]
          exact ⟨hWorld, rfl⟩
      | ok hit =>
          cases hit with
          | none =>
              refine ⟨.ok none, ?_⟩
              intro host
              obtain ⟨searched, hSearch, hWorld⟩ := hSame host
              rw [build, hName, if_pos rfl, hSearch, hResult]
              exact ⟨hWorld, rfl⟩
          | some hit =>
              obtain ⟨moduleName, provided⟩ := hit
              obtain ⟨kind, hLoads⟩ := load_bundled (hFinds moduleName provided hResult)
              refine ⟨.ok (some kind), ?_⟩
              intro host
              obtain ⟨searched, hSearch, hWorld⟩ := hSame host
              obtain ⟨handle, after, hLoad, hHandler, hAfter⟩ := hLoads r moduleName searched
              rw [build, hName, if_pos rfl, hSearch, hResult]
              dsimp only [Outcome.andThen]
              rw [hLoad]
              refine ⟨hAfter.trans hWorld, ?_⟩
              simp only [Outcome.ok, Except.map, Option.map_some, hHandler]

/-- Where the bundled package is the only one, nothing else can be found. -/
theorem BundledOnly.findsBundled {clock : ω → Calendar.Moment} {r : Registry ω}
    (h : BundledOnly clock r) (name : Text) : FindsBundled clock r name := by
  intro host moduleName provided hSearch
  obtain ⟨package, hPackage, found, hImport, hModule, _⟩ := search_found hSearch
  rw [h.packages, List.mem_singleton] at hPackage
  subst hPackage
  rw [h.provided] at hImport
  cases hImport
  exact hModule

end CommandMarkup.Registry
