import CommandMarkup.Proofs.Registry.Search

/-! What building a name depends on, and what it leaves noted. Which class a name is built with is
settled by the environment (`builds`); of the host only the next serial number matters, and the
world if the class looks at it (`build_congr`). -/
namespace CommandMarkup

/-- Whether the event is that something is made: a handler is loaded, or a target is bound. -/
def Event.makes : Event → Bool
  | loaded _ _ => true
  | bound _ _ => true
  | _ => false

/-- Events that are among some others are counted among those. -/
theorem Event.countP_filter {p q : Event → Bool} (h : ∀ event, p event = true → q event = true)
    (log : List Event) : (log.filter q).countP p = log.countP p := by
  rw [List.countP_filter]
  refine List.countP_congr fun event _ => ?_
  rw [Bool.and_eq_true]
  exact ⟨And.left, fun hEvent => ⟨hEvent, h event hEvent⟩⟩

namespace Registry

variable {ω : Type} {r : Registry ω} {name : Text}

/-- Some module that can be imported defines the class. -/
def Provides (r : Registry ω) (handlerClass : HandlerClass ω) : Prop :=
  ∃ package found name commandModule, r.environment.package package = .loaded found ∧
    found.module? name = some (.loaded commandModule) ∧
    commandModule.handlerClass? (Handler.classNameOf name) = some handlerClass

/-- How building goes on with what loading came to. -/
def settle (name : Text) : Outcome (Host ω) (Handle ω) → Outcome (Host ω) (Option (Handle ω))
  | ⟨.ok handle, host⟩ => .ok (some handle) host
  | ⟨.error (.load command source reason), host⟩ =>
    giveUp name (host.note (.loadFailed command source reason))
  | ⟨.error fault, host⟩ => .error fault host

/-- How building goes on when the search is over. -/
def conclude (r : Registry ω) (name : Text) (hit : Option (Text × Import (CommandModule ω)))
    (host : Host ω) : Outcome (Host ω) (Option (Handle ω)) :=
  match hit with
  | none => giveUp name host
  | some (moduleName, found) => settle name (r.load name moduleName found host)

theorem build_name (r : Registry ω) (hName : Call.isName name = true) (host : Host ω) :
    r.build name host =
      (r.search name r.settings.extensionPackages host).andThen (r.conclude name) := by
  rw [build, if_pos hName]
  rfl

/-- What becomes of a host: the result, the next serial number, and what is noted to be made. -/
structure Built (host : Host ω) (o : Outcome (Host ω) (Option (Handle ω)))
    (result : Except Fault (Option (Handle ω))) (next : Nat) (made : List Event) : Prop where
  result : o.result = result
  next : o.state.nextSerial = next
  log : o.state.log.filter Event.makes = host.log.filter Event.makes ++ made

/-- What building comes to when loading fails. -/
def failedWith : Fault → Except Fault (Option (Handle ω))
  | .load _ _ _ => .ok none
  | fault => .error fault

/-- How a name is built, the same on all hosts: without any class, or with a certain one. -/
inductive Builds (r : Registry ω) (name : Text)
    (f : Host ω → Outcome (Host ω) (Option (Handle ω))) : Prop where
  | unloaded (result : Except Fault (Option (Handle ω)))
      (hResult : ∀ handle, result ≠ .ok (some handle))
      (hBuilt : ∀ host, Built host (f host) result host.nextSerial [])
  | loading (handlerClass : HandlerClass ω) (moduleName : Text)
      (hProvides : r.Provides handlerClass)
      (hOk : ∀ host handler, (handlerClass.construct r.settings host.world).result = .ok handler →
        Built host (f host) (.ok (some ⟨name, moduleName, handler, host.nextSerial⟩))
          (host.nextSerial + 1) [.loaded name moduleName])
      (hError : ∀ host fault, (handlerClass.construct r.settings host.world).result = .error fault →
        Built host (f host) (failedWith fault) host.nextSerial [.loaded name moduleName])

theorem failedWith_ne_some (fault : Fault) (handle : Handle ω) :
    failedWith fault ≠ .ok (some handle) := by
  cases fault <;> nofun

/-- Failing makes nothing. -/
theorem built_failed {host after : Host ω} {o : Outcome (Host ω) (Handle ω)} {fault : Fault}
    {made : List Event} (hLoad : o = ⟨.error fault, after⟩)
    (hNext : after.nextSerial = host.nextSerial)
    (hLog : after.log.filter Event.makes = host.log.filter Event.makes ++ made) :
    Built host (settle name o) (failedWith fault) host.nextSerial made := by
  subst hLoad
  cases fault
  case load command source reason =>
    refine ⟨rfl, hNext, ?_⟩
    rw [← hLog]
    simp [settle, giveUp, Outcome.ok, Host.note, Event.makes]
  all_goals exact ⟨rfl, hNext, hLog⟩

/-- Concluding from a hit builds a name: it comes to a handle with the next serial number, to none,
or to the fault of a class. -/
theorem builds_conclude {hit : Option (Text × Import (CommandModule ω))}
    (hHit : ∀ moduleName commandModule handlerClass,
      hit = some (moduleName, .loaded commandModule) →
      commandModule.handlerClass? (Handler.classNameOf name) = some handlerClass →
      r.Provides handlerClass) : Builds r name (r.conclude name hit) := by
  have hFailed : ∀ moduleName found fault, hit = some (moduleName, found) →
      (∀ host, r.load name moduleName found host = ⟨.error fault, host⟩) →
      Builds r name (r.conclude name hit) := by
    intro moduleName found fault hFound hLoad
    subst hFound
    exact .unloaded (failedWith fault) (failedWith_ne_some fault) fun host =>
      built_failed (hLoad host) rfl (List.append_nil _).symm
  cases hit with
  | none =>
      refine .unloaded (.ok none) nofun fun host => ⟨rfl, rfl, ?_⟩
      simp [conclude, giveUp, Outcome.ok, Host.note, Event.makes]
  | some hit =>
      obtain ⟨moduleName, found⟩ := hit
      cases found with
      | missing reason => exact hFailed _ _ _ rfl fun host => rfl
      | failed reason => exact hFailed _ _ _ rfl fun host => rfl
      | crashed fault => exact hFailed _ _ _ rfl fun host => rfl
      | loaded commandModule =>
          cases hClass : commandModule.handlerClass? (Handler.classNameOf name) with
          | none =>
              have hLoad : ∀ host, r.load name moduleName (.loaded commandModule) host =
                  .error (.load name moduleName
                    ("no CommandHandler subclass named ".toList ++ Handler.classNameOf name))
                    host := by
                intro host
                simp only [load, hClass]
              exact hFailed _ _ _ rfl hLoad
          | some handlerClass =>
              refine .loading handlerClass moduleName (hHit _ _ _ rfl hClass) ?_ ?_
              · intro host handler hConstruct
                cases hMade : handlerClass.construct r.settings host.world with
                | mk result world =>
                    rw [hMade] at hConstruct
                    dsimp only at hConstruct
                    subst hConstruct
                    simp only [conclude, load, hClass, Host.note, hMade, Host.newHandle, Outcome.ok,
                      settle]
                    exact ⟨rfl, rfl, List.filter_append _ _⟩
              · intro host fault hConstruct
                cases hMade : handlerClass.construct r.settings host.world with
                | mk result world =>
                    rw [hMade] at hConstruct
                    dsimp only at hConstruct
                    subst hConstruct
                    have hLoad : r.load name moduleName (.loaded commandModule) host =
                        ⟨.error fault, { host.note (.loaded name moduleName) with world }⟩ := by
                      simp only [load, hClass, Host.note, hMade, Outcome.error]
                    exact built_failed hLoad rfl (List.filter_append _ _)

/-- A search makes nothing; it only warns. -/
theorem search_makes (r : Registry ω) (name : Text) (packages : List Text) (host : Host ω) :
    (r.search name packages host).state.log.filter Event.makes = host.log.filter Event.makes := by
  fun_induction r.search name packages host with
  | case1 => rfl
  | case2 package packages host probed reason hImport ih =>
      rw [ih]
      simp [probed, Host.note, Host.probe, Event.makes]
  | case3 => rfl
  | case4 => rfl
  | case5 => rfl
  | case6 package packages host probed found hImport hModule ih => exact ih

/-- Every name is built in one of the two ways, and from one world it is the same on every host. -/
theorem builds (r : Registry ω) (name : Text) (base : Host ω) : Builds r name (r.build name) := by
  cases hName : Call.isName name with
  | false =>
      refine .unloaded (.ok none) nofun fun host => ?_
      rw [build, hName, if_neg Bool.false_ne_true]
      refine ⟨rfl, rfl, ?_⟩
      simp [giveUp, Outcome.ok, Host.note, Event.makes]
  | true =>
      have hSearch := search_result r name r.settings.extensionPackages
      have hWorld := search_world r name r.settings.extensionPackages
      have hNext := search_nextSerial r name r.settings.extensionPackages
      have hLog := search_makes r name r.settings.extensionPackages
      cases hBase : (r.search name r.settings.extensionPackages base).result with
      | error fault =>
          have hNone : ∀ handle : Handle ω, Except.error fault ≠ .ok (some handle) := by
            intro handle hHandle
            cases hHandle
          refine .unloaded (.error fault) hNone fun host => ?_
          have hResult := (hSearch host base).trans hBase
          rw [build_name r hName, Outcome.andThen, hResult]
          refine ⟨rfl, hNext host, ?_⟩
          rw [List.append_nil]
          exact hLog host
      | ok hit =>
          have hBuild : ∀ host, r.build name host =
              r.conclude name hit (r.search name r.settings.extensionPackages host).state := by
            intro host
            rw [build_name r hName, Outcome.andThen, hSearch host base, hBase]
          -- What the search leaves of a host is the host for all that counts.
          have hMoved : ∀ host result next made,
              Built (r.search name r.settings.extensionPackages host).state (r.build name host)
                result next made → Built host (r.build name host) result next made := by
            intro host result next made h
            exact ⟨h.result, h.next, by rw [h.log, hLog]⟩
          have hConclude : Builds r name (r.conclude name hit) := by
            refine builds_conclude ?_
            rintro moduleName commandModule handlerClass rfl hClass
            obtain ⟨package, _, found, hPackage, hModule, _⟩ := search_found hBase
            exact ⟨package, found, name, commandModule, hPackage, hModule, hClass⟩
          cases hConclude with
          | unloaded result hResult hBuilt =>
              refine .unloaded result hResult fun host => hMoved _ _ _ _ ?_
              rw [hBuild, ← hNext host]
              exact hBuilt _
          | loading handlerClass moduleName hProvides hOk hError =>
              refine .loading handlerClass moduleName hProvides ?_ ?_
              · intro host handler hConstruct
                refine hMoved _ _ _ _ ?_
                rw [hBuild, ← hNext host]
                rw [← hWorld host] at hConstruct
                exact hOk _ handler hConstruct
              · intro host fault hConstruct
                refine hMoved _ _ _ _ ?_
                rw [hBuild, ← hNext host]
                rw [← hWorld host] at hConstruct
                exact hError _ fault hConstruct

/-- Of the host, building depends on the next serial number, and on the world as far as the classes
that modules define do. -/
theorem build_congr (r : Registry ω) (name : Text) {host other : Host ω}
    (hConstruct : ∀ handlerClass, r.Provides handlerClass →
      (handlerClass.construct r.settings host.world).result =
        (handlerClass.construct r.settings other.world).result)
    (hSerial : host.nextSerial = other.nextSerial) :
    (r.build name host).result = (r.build name other).result ∧
      (r.build name host).state.nextSerial = (r.build name other).state.nextSerial := by
  cases builds r name host with
  | unloaded result _ hBuilt =>
      rw [(hBuilt host).result, (hBuilt other).result, (hBuilt host).next, (hBuilt other).next]
      exact ⟨rfl, hSerial⟩
  | loading handlerClass moduleName hProvides hOk hError =>
      have hSame := hConstruct handlerClass hProvides
      cases hHere : (handlerClass.construct r.settings host.world).result with
      | ok handler =>
          have hThere := hOk other handler (hSame.symm.trans hHere)
          rw [(hOk host handler hHere).result, hThere.result, (hOk host handler hHere).next,
            hThere.next, hSerial]
          exact ⟨rfl, rfl⟩
      | error fault =>
          have hThere := hError other fault (hSame.symm.trans hHere)
          rw [(hError host fault hHere).result, hThere.result, (hError host fault hHere).next,
            hThere.next]
          exact ⟨rfl, hSerial⟩

/-- A serial number is used up exactly when a handle is built, and it is the number of the
handle. -/
theorem build_serial (r : Registry ω) (name : Text) (host : Host ω) :
    (∃ handle, (r.build name host).result = .ok (some handle) ∧
      handle.serial = host.nextSerial ∧
      (r.build name host).state.nextSerial = host.nextSerial + 1) ∨
    ((∀ handle, (r.build name host).result ≠ .ok (some handle)) ∧
      (r.build name host).state.nextSerial = host.nextSerial) := by
  cases builds r name host with
  | unloaded result hResult hBuilt =>
      rw [(hBuilt host).result, (hBuilt host).next]
      exact .inr ⟨hResult, rfl⟩
  | loading handlerClass moduleName _ hOk hError =>
      cases hConstruct : (handlerClass.construct r.settings host.world).result with
      | ok handler =>
          rw [(hOk host handler hConstruct).result, (hOk host handler hConstruct).next]
          exact .inl ⟨_, rfl, rfl, rfl⟩
      | error fault =>
          rw [(hError host fault hConstruct).result, (hError host fault hConstruct).next]
          exact .inr ⟨failedWith_ne_some fault, rfl⟩

/-- No class that a module defines fails to construct its handler. -/
def NeverRaises (r : Registry ω) : Prop :=
  ∀ handlerClass, r.Provides handlerClass → ∀ world fault,
    (handlerClass.construct r.settings world).result ≠ .error fault

/-- Building notes that a handler is loaded at most once, and that nothing else is made. Where no
class fails, a handle is built then. -/
theorem build_makes (r : Registry ω) (name : Text) (host : Host ω) :
    (r.build name host).state.log.filter Event.makes = host.log.filter Event.makes ∨
    ∃ moduleName, (r.build name host).state.log.filter Event.makes =
        host.log.filter Event.makes ++ [.loaded name moduleName] ∧
      (r.NeverRaises → ∃ handle, (r.build name host).result = .ok (some handle)) := by
  cases builds r name host with
  | unloaded result _ hBuilt =>
      left
      rw [(hBuilt host).log, List.append_nil]
  | loading handlerClass moduleName hProvides hOk hError =>
      refine .inr ⟨moduleName, ?_⟩
      cases hConstruct : (handlerClass.construct r.settings host.world).result with
      | ok handler =>
          have hBuilt := hOk host handler hConstruct
          exact ⟨hBuilt.log, fun _ => ⟨_, hBuilt.result⟩⟩
      | error fault =>
          refine ⟨(hError host fault hConstruct).log, fun hNever => ?_⟩
          exact absurd hConstruct (hNever handlerClass hProvides host.world fault)

end Registry

end CommandMarkup
