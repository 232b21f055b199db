import CommandMarkup.Registry.Register
import CommandMarkup.Registry.Resolve

/-! What a search does to its host and what it can bring back. A search only looks up modules of
the name that it is for, in the packages of the settings, and a handle comes from a class that one
of those modules defines, constructed with the settings. -/
namespace CommandMarkup.Registry

variable {ω : Type}

/-- The handlers that a source can stand for when its class is constructed with those settings. -/
def Source.Yields (settings : Settings) : Source ω → Handler ω → Prop
  | ofHandler given, handler => handler = given
  | ofClass handlerClass, handler =>
    ∃ world, (handlerClass.construct settings world).result = .ok handler

/-- The handle comes from a module that a package of the settings has for its name. -/
def Loads (r : Registry ω) (handle : Handle ω) : Prop :=
  ∃ package ∈ r.settings.extensionPackages, ∃ found commandModule handlerClass,
    r.environment.package package = .loaded found ∧
    found.module? handle.name = some (.loaded commandModule) ∧
    commandModule.handlerClass? (Handler.classNameOf handle.name) = some handlerClass ∧
    (Source.ofClass handlerClass).Yields r.settings handle.handler ∧
    handle.moduleName = moduleNameIn package handle.name

/-- The second list is the first with nothing but such things added at its end. -/
def Adds {α : Type} (P : α → Prop) (before after : List α) : Prop :=
  ∃ new, after = before ++ new ∧ ∀ x ∈ new, P x

namespace Adds

variable {α : Type} {P Q : α → Prop} {before middle after : List α}

theorem refl (P : α → Prop) (before : List α) : Adds P before before :=
  ⟨[], (List.append_nil before).symm, nofun⟩

theorem one {x : α} (h : P x) (before : List α) : Adds P before (before ++ [x]) :=
  ⟨[x], rfl, List.forall_mem_singleton.mpr h⟩

theorem trans (hFirst : Adds P before middle) (hRest : Adds P middle after) :
    Adds P before after := by
  obtain ⟨first, rfl, hFirst⟩ := hFirst
  obtain ⟨rest, rfl, hRest⟩ := hRest
  exact ⟨first ++ rest, List.append_assoc _ _ _, List.forall_mem_append.mpr ⟨hFirst, hRest⟩⟩

theorem mono (h : Adds P before after) (hImp : ∀ x, P x → Q x) : Adds Q before after := by
  obtain ⟨new, hNew, hMem⟩ := h
  exact ⟨new, hNew, fun x hx => hImp x (hMem x hx)⟩

theorem isPrefix (h : Adds P before after) : before <+: after := by
  obtain ⟨new, rfl, _⟩ := h
  exact List.prefix_append before new

end Adds

/-- What a search for a name leaves of its host, whatever it comes to. -/
structure Searched (r : Registry ω) (name : Text) (host after : Host ω) : Prop where
  probes : Adds (fun moduleName => Call.isName name = true ∧
    ∃ package ∈ r.settings.extensionPackages, moduleName = moduleNameIn package name)
    host.probes after.probes
  nextSerial : host.nextSerial ≤ after.nextSerial

/-- A search looks up the module of its name in packages it was given, one after the other. -/
theorem search_probes (r : Registry ω) (name : Text) (packages : List Text) (host : Host ω) :
    Adds (fun moduleName => ∃ package ∈ packages, moduleName = moduleNameIn package name)
      host.probes (r.search name packages host).state.probes := by
  -- Each package that is come to is looked up, and then the search stops or goes on.
  have hOne : ∀ (package : Text) (packages : List Text) (host : Host ω),
      Adds (fun moduleName => ∃ p ∈ package :: packages, moduleName = moduleNameIn p name)
        host.probes (host.probe (moduleNameIn package name)).probes := by
    intro package packages host
    exact .one ⟨package, List.mem_cons_self, rfl⟩ host.probes
  have hMore : ∀ (package : Text) (packages : List Text) {before after : List Text},
      Adds (fun moduleName => ∃ p ∈ packages, moduleName = moduleNameIn p name) before after →
      Adds (fun moduleName => ∃ p ∈ package :: packages, moduleName = moduleNameIn p name)
        before after := by
    intro package packages before after h
    apply h.mono
    intro moduleName hModule
    obtain ⟨p, hp, hName⟩ := hModule
    exact ⟨p, List.mem_cons_of_mem _ hp, hName⟩
  fun_induction r.search name packages host with
  | case1 host => exact .refl _ _
  | case2 package packages host probed reason hImport ih =>
      exact (hOne package packages host).trans (hMore package packages ih)
  | case3 package packages host => exact hOne package packages host
  | case4 package packages host => exact hOne package packages host
  | case5 package packages host => exact hOne package packages host
  | case6 package packages host probed found hImport hModule ih =>
      exact (hOne package packages host).trans (hMore package packages ih)

/-- A search only ever writes warnings. -/
theorem search_log (r : Registry ω) (name : Text) (packages : List Text) (host : Host ω) :
    Adds (fun event => ∃ package, event = .packageMissing package)
      host.log (r.search name packages host).state.log := by
  fun_induction r.search name packages host with
  | case1 => exact .refl _ _
  | case2 package packages host probed reason hImport ih =>
      have hWarning : Adds (fun event => ∃ package, event = .packageMissing package)
          host.log (probed.note (.packageMissing package)).log := .one ⟨package, rfl⟩ host.log
      exact hWarning.trans ih
  | case3 => exact .refl _ _
  | case4 => exact .refl _ _
  | case5 => exact .refl _ _
  | case6 package packages host probed found hImport hModule ih => exact ih

/-- A search looks into the first package, whatever comes of it. -/
theorem search_first (r : Registry ω) (name package : Text) (packages : List Text)
    (host : Host ω) :
    host.probes ++ [moduleNameIn package name] <+:
      (r.search name (package :: packages) host).state.probes := by
  rw [search]
  cases r.environment.package package with
  | missing reason =>
      exact (search_probes r name packages
        ((host.probe (moduleNameIn package name)).note (.packageMissing package))).isPrefix
  | failed reason => exact List.prefix_rfl
  | crashed fault => exact List.prefix_rfl
  | loaded found =>
      dsimp only
      cases found.module? name with
      | some commandModule => exact List.prefix_rfl
      | none =>
          exact (search_probes r name packages (host.probe (moduleNameIn package name))).isPrefix

/-- A search takes no serial number. -/
theorem search_nextSerial (r : Registry ω) (name : Text) (packages : List Text) (host : Host ω) :
    (r.search name packages host).state.nextSerial = host.nextSerial := by
  fun_induction r.search name packages host with
  | case1 => rfl
  | case2 _ _ _ _ _ _ ih => exact ih
  | case3 => rfl
  | case4 => rfl
  | case5 => rfl
  | case6 _ _ _ _ _ _ _ ih => exact ih

theorem search_world (r : Registry ω) (name : Text) (packages : List Text) (host : Host ω) :
    (r.search name packages host).state.world = host.world := by
  fun_induction r.search name packages host with
  | case1 => rfl
  | case2 _ _ _ _ _ _ ih => exact ih
  | case3 => rfl
  | case4 => rfl
  | case5 => rfl
  | case6 _ _ _ _ _ _ _ ih => exact ih

/-- What a search comes to does not depend on the host. -/
theorem search_result (r : Registry ω) (name : Text) (packages : List Text) (host other : Host ω) :
    (r.search name packages host).result = (r.search name packages other).result := by
  induction packages generalizing host other with
  | nil => rfl
  | cons package packages ih =>
      rw [search, search]
      cases r.environment.package package with
      | missing reason => exact ih _ _
      | failed reason => rfl
      | crashed fault => rfl
      | loaded found =>
          dsimp only
          cases found.module? name with
          | some commandModule => rfl
          | none => exact ih _ _

/-- What a search finds, a package that can be imported has under the name. -/
theorem search_found {r : Registry ω} {name : Text} {packages : List Text} {host : Host ω}
    {moduleName : Text} {provided : Import (CommandModule ω)}
    (h : (r.search name packages host).result = .ok (some (moduleName, provided))) :
    ∃ package ∈ packages, ∃ found, r.environment.package package = .loaded found ∧
      found.module? name = some provided ∧ moduleName = moduleNameIn package name := by
  fun_induction r.search name packages host with
  | case1 => cases h
  | case2 package packages host probed reason hImport ih =>
      obtain ⟨other, hOther, hFound⟩ := ih h
      exact ⟨other, List.mem_cons_of_mem _ hOther, hFound⟩
  | case3 => cases h
  | case4 => cases h
  | case5 package packages host probed found hImport commandModule hModule =>
      cases h
      exact ⟨package, List.mem_cons_self, found, hImport, hModule, rfl⟩
  | case6 package packages host probed found hImport hModule ih =>
      obtain ⟨other, hOther, hFound⟩ := ih h
      exact ⟨other, List.mem_cons_of_mem _ hOther, hFound⟩

/-- Loading a module that was found looks no further one up. -/
theorem load_probes (r : Registry ω) (name moduleName : Text) (found : Import (CommandModule ω))
    (host : Host ω) : (r.load name moduleName found host).state.probes = host.probes := by
  fun_cases r.load name moduleName found host <;> rfl

theorem load_nextSerial (r : Registry ω) (name moduleName : Text)
    (found : Import (CommandModule ω)) (host : Host ω) :
    host.nextSerial ≤ (r.load name moduleName found host).state.nextSerial := by
  fun_cases r.load name moduleName found host
  all_goals first | exact Nat.le_refl _ | exact Nat.le_succ _

/-- A handle is loaded only from a module that can be imported and defines the class for the
name. -/
theorem load_ok {r : Registry ω} {name moduleName : Text} {found : Import (CommandModule ω)}
    {host after : Host ω} {handle : Handle ω}
    (h : r.load name moduleName found host = ⟨.ok handle, after⟩) :
    (handle.name = name ∧ handle.moduleName = moduleName) ∧
    (handle.serial = host.nextSerial ∧ after.nextSerial = host.nextSerial + 1) ∧
    ∃ commandModule handlerClass, found = .loaded commandModule ∧
      commandModule.handlerClass? (Handler.classNameOf name) = some handlerClass ∧
      (Source.ofClass handlerClass).Yields r.settings handle.handler := by
  revert h
  fun_cases r.load name moduleName found host with
  | case5 commandModule className handlerClass hClass noted handler world hConstruct =>
      intro h
      cases h
      refine ⟨⟨rfl, rfl⟩, ⟨rfl, rfl⟩, commandModule, handlerClass, rfl, hClass, ?_⟩
      exact ⟨noted.world, by rw [hConstruct]⟩
  | case1 => nofun
  | case2 => nofun
  | case3 => nofun
  | case4 => nofun
  | case6 => nofun

/-- Building looks a name up in the packages of the settings and nowhere else, and text that is no
name it does not look up at all. -/
theorem build_searched (r : Registry ω) (name : Text) (host : Host ω) :
    r.Searched name host (r.build name host).state := by
  rw [build]
  split
  case isFalse => exact ⟨.refl _ _, Nat.le_refl _⟩
  case isTrue hName =>
    have hSearch := search_probes r name r.settings.extensionPackages host
    have hSerial := search_nextSerial r name r.settings.extensionPackages host
    -- What comes after the search adds no look-up and takes back no serial number.
    have hAfter : ∀ after : Host ω,
        after.probes = (r.search name r.settings.extensionPackages host).state.probes →
        (r.search name r.settings.extensionPackages host).state.nextSerial ≤ after.nextSerial →
        r.Searched name host after := by
      intro after hProbes hNext
      constructor
      · rw [hProbes]
        exact hSearch.mono fun moduleName hModule => ⟨hName, hModule⟩
      · rw [← hSerial]
        exact hNext
    generalize r.search name r.settings.extensionPackages host = searched at hAfter
    obtain ⟨result, searched⟩ := searched
    cases result with
    | error fault => exact hAfter _ rfl (Nat.le_refl _)
    | ok hit =>
        cases hit with
        | none => exact hAfter _ rfl (Nat.le_refl _)
        | some hit =>
            obtain ⟨moduleName, found⟩ := hit
            have hProbes := load_probes r name moduleName found searched
            have hNext := load_nextSerial r name moduleName found searched
            simp only [Outcome.andThen]
            split
            case h_1 handle after hLoad =>
              rw [hLoad] at hProbes hNext
              exact hAfter after hProbes hNext
            case h_2 command source reason after hLoad =>
              rw [hLoad] at hProbes hNext
              exact hAfter (after.note _ |>.note _) hProbes hNext
            case h_3 fault after hFault hLoad =>
              rw [hLoad] at hProbes hNext
              exact hAfter after hProbes hNext

/-- A handle that is built has the name and is new, and its class was loaded for that name. -/
theorem build_ok {r : Registry ω} {name : Text} {host after : Host ω} {handle : Handle ω}
    (h : r.build name host = ⟨.ok (some handle), after⟩) :
    Call.isName name = true ∧ handle.name = name ∧ r.Loads handle ∧
      host.nextSerial ≤ handle.serial ∧ handle.serial < after.nextSerial := by
  rw [build] at h
  split at h
  case isFalse => cases h
  case isTrue hName =>
    have hSerial := search_nextSerial r name r.settings.extensionPackages host
    cases hSearch : r.search name r.settings.extensionPackages host with
    | mk result searched =>
        rw [hSearch] at h hSerial
        cases result with
        | error fault => cases h
        | ok hit =>
            cases hit with
            | none => cases h
            | some hit =>
                obtain ⟨moduleName, found⟩ := hit
                obtain ⟨package, hPackage, provided, hImport, hModule, rfl⟩ :=
                  search_found (congrArg Outcome.result hSearch)
                simp only [Outcome.andThen] at h
                split at h
                case h_1 loaded later hLoad =>
                  cases h
                  obtain ⟨⟨rfl, hSource⟩, ⟨hOld, hNew⟩, commandModule, handlerClass, rfl, hClass,
                    hYields⟩ := load_ok hLoad
                  refine ⟨hName, rfl, ?_, ?_, ?_⟩
                  · exact ⟨package, hPackage, provided, commandModule, handlerClass, hImport,
                      hModule, hClass, hYields, hSource⟩
                  · exact Nat.le_of_eq (hSerial.symm.trans hOld.symm)
                  · rw [hOld, hNew]
                    exact Nat.lt_succ_self _
                case h_2 => cases h
                case h_3 => cases h

end CommandMarkup.Registry
