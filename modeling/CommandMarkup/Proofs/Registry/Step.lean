import CommandMarkup.Proofs.Call.RoundTrip
import CommandMarkup.Proofs.Registry.Search
import CommandMarkup.Registry.Dispatch

/-! The single steps that everything done with a registry is made of. A step changes at most one
entry of one table, and never an entry that is a handle or a target: `effect` says
all that a step can do, `entry_after` and `slot_after` what can become of an entry of either table,
`probes_after` what is looked up. -/
namespace CommandMarkup.Registry

variable {ω : Type}

/-- No handle is remembered under the key. -/
def Free (s : State ω) (key : Text) : Prop := ∀ handle, s.handles.get? key ≠ some (some handle)

/-- The module name is one that a name without an entry is looked up by. -/
def SearchesFor (r : Registry ω) (s : State ω) (moduleName : Text) : Prop :=
  ∃ name, Call.isName name = true ∧ s.handles.get? name = none ∧
    ∃ package ∈ r.settings.extensionPackages, moduleName = moduleNameIn package name

/-- A name with an entry resolves to it, and the state does not change. -/
theorem resolve_known {name : Text} {s : State ω} {entry : Option (Handle ω)} (r : Registry ω)
    (h : s.handles.get? (Text.lower name) = some entry) : r.resolve name s = .ok entry s := by
  simp only [resolve, h]

/-- A name resolves to its entry, or it is built, and remembered unless building breaks. -/
theorem resolve_cases (r : Registry ω) (name : Text) (s : State ω) :
    (∃ entry, s.handles.get? (Text.lower name) = some entry ∧ r.resolve name s = .ok entry s) ∨
    (s.handles.get? (Text.lower name) = none ∧
      ∃ entry host, r.build (Text.lower name) s.toHost = ⟨.ok entry, host⟩ ∧
        r.resolve name s =
          .ok entry (State.remember { s with toHost := host } (Text.lower name) entry)) ∨
    (s.handles.get? (Text.lower name) = none ∧
      ∃ fault host, r.build (Text.lower name) s.toHost = ⟨.error fault, host⟩ ∧
        r.resolve name s = .error fault { s with toHost := host }) := by
  cases hEntry : s.handles.get? (Text.lower name) with
  | some entry => exact .inl ⟨entry, rfl, resolve_known r hEntry⟩
  | none =>
      right
      cases hBuild : r.build (Text.lower name) s.toHost with
      | mk result host =>
          cases result with
          | ok entry =>
              refine .inl ⟨rfl, entry, host, rfl, ?_⟩
              simp only [resolve, hEntry, hBuild, State.onHost, Outcome.andThen]
          | error fault =>
              refine .inr ⟨rfl, fault, host, rfl, ?_⟩
              simp only [resolve, hEntry, hBuild, State.onHost, Outcome.andThen]

/-- A text that is no name is refused before its class is constructed. -/
theorem register_invalid {name : Text} (r : Registry ω) (source : Source ω) (s : State ω)
    (hName : Call.isName name = false) :
    r.register name source s = .error (.invalidName name) s := by
  simp [register, hName]

/-- Obtaining a handler changes nothing but the world. -/
theorem obtain_state (source : Source ω) (settings : Settings) (s : State ω) :
    (source.obtain settings s).state =
      { s with world := (source.obtain settings s).state.world } := by
  cases source with
  | ofHandler handler => rfl
  | ofClass handlerClass => rfl

theorem obtain_ok {source : Source ω} {settings : Settings} {s : State ω} {handler : Handler ω}
    (h : (source.obtain settings s).result = .ok handler) : source.Yields settings handler := by
  cases source with
  | ofHandler given =>
      cases h
      exact rfl
  | ofClass handlerClass => exact ⟨s.world, h⟩

theorem register_fault {r : Registry ω} {name : Text} {source : Source ω} {s : State ω}
    {fault : Fault} (hName : Call.isName name = true)
    (hSource : (source.obtain r.settings s).result = .error fault) :
    r.register name source s = .error fault (source.obtain r.settings s).state := by
  simp [register, hName, Outcome.andThen, hSource]

/-- Where there is a handle, a registration is refused, though its class was constructed before. -/
theorem register_held {r : Registry ω} {name : Text} {source : Source ω} {s : State ω}
    {handler : Handler ω} {held : Handle ω} (hName : Call.isName name = true)
    (hSource : (source.obtain r.settings s).result = .ok handler)
    (hHeld : s.handles.get? (Text.lower name) = some (some held)) :
    r.register name source s =
      .error (.alreadyResolved (Text.lower name)) (source.obtain r.settings s).state := by
  have hHandles : (source.obtain r.settings s).state.handles = s.handles := by
    rw [obtain_state]
  simp [register, hName, Outcome.andThen, hSource, hHandles, hHeld]

/-- The handle that a successful registration makes. -/
def registeredHandle (name : Text) (handler : Handler ω) (s : State ω) : Handle ω :=
  ⟨Text.lower name, registeredModule, handler, s.nextSerial⟩

/-- Where there is none, a registration makes a handle, which takes the place of an entry without
one. -/
theorem register_free {r : Registry ω} {name : Text} {source : Source ω} {s : State ω}
    {handler : Handler ω} (hName : Call.isName name = true)
    (hSource : (source.obtain r.settings s).result = .ok handler)
    (hFree : Free s (Text.lower name)) :
    r.register name source s = .ok (registeredHandle name handler s)
      (State.note (State.remember { s with
        world := (source.obtain r.settings s).state.world
        nextSerial := s.nextSerial + 1 } (Text.lower name) (some (registeredHandle name handler s)))
        (.registered (Text.lower name) handler.className)) := by
  have hState := obtain_state source r.settings s
  simp only [register, hName, if_true, Outcome.andThen, hSource]
  rw [hState]
  split
  case h_1 held hHeld => exact absurd hHeld (hFree held)
  case h_2 => rfl

/-- A registration fails and changes nothing but the world, or it succeeds where no handle was. -/
theorem register_cases (r : Registry ω) (name : Text) (source : Source ω) (s : State ω) :
    (∃ fault world, r.register name source s = .error fault { s with world }) ∨
    ∃ handler, Call.isName name = true ∧ source.Yields r.settings handler ∧
      Free s (Text.lower name) ∧
      (r.register name source s).result = .ok (registeredHandle name handler s) ∧
      (r.register name source s).state = (State.note (State.remember { s with
        world := (source.obtain r.settings s).state.world
        nextSerial := s.nextSerial + 1 } (Text.lower name) (some (registeredHandle name handler s)))
        (.registered (Text.lower name) handler.className)) := by
  cases hName : Call.isName name with
  | false => exact .inl ⟨_, s.world, register_invalid r source s hName⟩
  | true =>
      cases hSource : (source.obtain r.settings s).result with
      | error fault =>
          left
          rw [register_fault hName hSource, obtain_state]
          exact ⟨_, _, rfl⟩
      | ok handler =>
          by_cases hFree : Free s (Text.lower name)
          · right
            rw [register_free hName hSource hFree]
            exact ⟨handler, rfl, obtain_ok hSource, hFree, rfl, rfl⟩
          · left
            obtain ⟨held, hHeld⟩ := not_forall_not.mp hFree
            rw [register_held hName hSource hHeld, obtain_state]
            exact ⟨_, _, rfl⟩

theorem bind_known {handle : Handle ω} {operation : Operation} {s : State ω} {target : Target ω}
    (h : s.targets.get? (handle.name, operation) = some target) :
    bind handle operation s = .ok target s := by
  simp only [bind, h]

theorem bind_new {handle : Handle ω} {operation : Operation} {s : State ω}
    (h : s.targets.get? (handle.name, operation) = none) :
    bind handle operation s = .ok ⟨operation, handle.handler, s.nextSerial⟩
      (State.note { s with
        targets := s.targets.put (handle.name, operation)
          ⟨operation, handle.handler, s.nextSerial⟩
        nextSerial := s.nextSerial + 1 } (.bound handle.name operation.toText)) := by
  simp only [bind, h]

theorem ofText?_toText (operation : Operation) :
    Operation.ofText? operation.toText = some operation := by
  cases operation <;> rfl

theorem toText_injective : Function.Injective Operation.toText := by
  intro x y h
  have hSame := congrArg Operation.ofText? h
  rw [ofText?_toText, ofText?_toText] at hSame
  exact Option.some.inj hSame

/-- What a registry can do at a time. -/
inductive Step (ω : Type) where
  | resolve (name : Text)
  | register (name : Text) (source : Source ω)
  | bind (handle : Handle ω) (operation : Operation)
  /-- A handler leaves that world behind. -/
  | work (world : ω)
  /-- Something other than the registry's own doings is written to the log. -/
  | remark (event : Event)

namespace Step

/-- The state after a step, whether it succeeds or fails. -/
def after (r : Registry ω) : Step ω → State ω → State ω
  | resolve name, s => (r.resolve name s).state
  | register name source, s => (r.register name source s).state
  | bind handle operation, s => (Registry.bind handle operation s).state
  | work world, s => { s with world }
  | remark event, s => s.note event

/-- What a step can do to the state, with the condition for it. -/
inductive Effect (r : Registry ω) (x : Step ω) (s : State ω) : Prop where
  | still (world : ω) (hAfter : x.after r s = { s with world })
  | noted (event : Event) (hStep : x = .remark event) (hAfter : x.after r s = s.note event)
  | broken (name : Text) (fault : Fault) (host : Host ω) (hStep : x = .resolve name)
      (hNew : s.handles.get? (Text.lower name) = none)
      (hBuild : r.build (Text.lower name) s.toHost = ⟨.error fault, host⟩)
      (hAfter : x.after r s = { s with toHost := host })
  | settled (name : Text) (entry : Option (Handle ω)) (host : Host ω) (hStep : x = .resolve name)
      (hNew : s.handles.get? (Text.lower name) = none)
      (hBuild : r.build (Text.lower name) s.toHost = ⟨.ok entry, host⟩)
      (hAfter : x.after r s =
        State.remember { s with toHost := host } (Text.lower name) entry)
  | registered (name : Text) (source : Source ω) (handler : Handler ω) (world : ω)
      (hStep : x = .register name source) (hName : Call.isName name = true)
      (hYields : source.Yields r.settings handler) (hFree : Free s (Text.lower name))
      (hResult : (r.register name source s).result = .ok (registeredHandle name handler s))
      (hAfter : x.after r s = State.note (State.remember
        { s with world, nextSerial := s.nextSerial + 1 } (Text.lower name)
        (some (registeredHandle name handler s))) (.registered (Text.lower name) handler.className))
  | bound (handle : Handle ω) (operation : Operation) (hStep : x = .bind handle operation)
      (hNew : s.targets.get? (handle.name, operation) = none)
      (hAfter : x.after r s = State.note { s with
        targets := s.targets.put (handle.name, operation)
          ⟨operation, handle.handler, s.nextSerial⟩
        nextSerial := s.nextSerial + 1 } (.bound handle.name operation.toText))

/-- A step has one of the listed effects. The cases follow how its operation comes out. -/
theorem effect (r : Registry ω) (x : Step ω) (s : State ω) : Effect r x s := by
  cases x with
  | resolve name =>
      rcases resolve_cases r name s with ⟨entry, _, hResolve⟩ |
        ⟨hNew, entry, host, hBuild, hResolve⟩ | ⟨hNew, fault, host, hBuild, hResolve⟩
      · exact .still s.world (by rw [after, hResolve, Outcome.ok])
      · refine .settled name entry host rfl hNew hBuild ?_
        rw [after, hResolve, Outcome.ok]
      · refine .broken name fault host rfl hNew hBuild ?_
        rw [after, hResolve, Outcome.error]
  | register name source =>
      rcases register_cases r name source s with
        ⟨fault, world, hFail⟩ | ⟨handler, hName, hYields, hFree, hResult, hState⟩
      · exact .still world (by rw [after, hFail, Outcome.error])
      · exact .registered name source handler _ rfl hName hYields hFree hResult hState
  | bind handle operation =>
      cases hTarget : s.targets.get? (handle.name, operation) with
      | some target => exact .still s.world (by rw [after, bind_known hTarget, Outcome.ok])
      | none =>
          refine .bound handle operation rfl hTarget ?_
          rw [after, bind_new hTarget, Outcome.ok]
  | work world => exact .still world rfl
  | remark event => exact .noted event rfl rfl

/-- The key of the name that a step is about. -/
def subject : Step ω → Option Text
  | resolve name => some (Text.lower name)
  | register name _ => some (Text.lower name)
  | bind handle _ => some handle.name
  | work _ => none
  | remark _ => none

/-- Where a handle comes from that a step puts into the table. -/
def Makes (r : Registry ω) (x : Step ω) (handle : Handle ω) : Prop :=
  r.Loads handle ∨ ∃ name source, x = .register name source ∧ Text.lower name = handle.name ∧
    source.Yields r.settings handle.handler ∧ handle.moduleName = registeredModule

/-- The handle is new when the step has put it in, and there was none under its name. -/
structure Made (r : Registry ω) (x : Step ω) (s : State ω) (handle : Handle ω) : Prop where
  name : Call.isName handle.name = true
  free : Free s handle.name
  makes : x.Makes r handle
  old : s.nextSerial ≤ handle.serial
  next : handle.serial < (x.after r s).nextSerial
  step : (∃ name, x = .resolve name ∧ Text.lower name = handle.name ∧
      s.handles.get? handle.name = none) ∨
    ∃ name source, x = .register name source ∧ Text.lower name = handle.name ∧
      (r.register name source s).result = .ok handle

theorem Made.subject {r : Registry ω} {x : Step ω} {s : State ω} {handle : Handle ω}
    (h : Made r x s handle) : x.subject = some handle.name := by
  rcases h.step with ⟨name, rfl, hName, _⟩ | ⟨name, source, rfl, hName, _⟩
  · exact congrArg some hName
  · exact congrArg some hName

/-- What can become of the entry of a key. -/
inductive Entry (r : Registry ω) (x : Step ω) (s : State ω) (key : Text) : Prop where
  | kept (hSame : (x.after r s).handles.get? key = s.handles.get? key)
  | absent (name : Text) (hStep : x = .resolve name) (hKey : Text.lower name = key)
      (hNew : s.handles.get? key = none) (hAfter : (x.after r s).handles.get? key = some none)
  | made (handle : Handle ω) (hKey : handle.name = key)
      (hAfter : (x.after r s).handles.get? key = some (some handle)) (hMade : Made r x s handle)

/-- A step changes the entry of a key only from none to something, or from absent to a handle. -/
theorem entry_after (r : Registry ω) (x : Step ω) (s : State ω) (key : Text) :
    Entry r x s key := by
  cases effect r x s with
  | still world hAfter => exact .kept (by rw [hAfter])
  | noted event _ hAfter => exact .kept (by rw [hAfter, State.note])
  | broken name fault host _ _ _ hAfter => exact .kept (by rw [hAfter])
  | bound handle operation _ _ hAfter => exact .kept (by rw [hAfter, State.note])
  | settled name entry host hStep hNew hBuild hAfter =>
      by_cases hKey : key = Text.lower name
      · subst hKey
        have hGet : (x.after r s).handles.get? (Text.lower name) = some entry := by
          rw [hAfter, State.remember, Table.get?_put_self]
        cases entry with
        | none => exact .absent name hStep rfl hNew hGet
        | some handle =>
            obtain ⟨hName, hKey, hLoads, hOld, hNext⟩ := build_ok hBuild
            refine .made handle hKey hGet ⟨hKey ▸ hName, ?_, .inl hLoads, hOld, ?_,
              .inl ⟨name, hStep, hKey.symm, hKey ▸ hNew⟩⟩
            · intro held hHeld
              rw [hKey, hNew] at hHeld
              cases hHeld
            · rw [hAfter]
              exact hNext
      · exact .kept (by rw [hAfter, State.remember, Table.get?_put_of_ne _ hKey])
  | registered name source handler world hStep hName hYields hFree hResult hAfter =>
      by_cases hKey : key = Text.lower name
      · subst hKey
        have hGet : (x.after r s).handles.get? (Text.lower name) =
            some (some (registeredHandle name handler s)) := by
          rw [hAfter, State.note, State.remember, Table.get?_put_self]
        refine .made (registeredHandle name handler s) rfl hGet ⟨?_, hFree, .inr ?_,
          Nat.le_refl _, ?_, .inr ⟨name, source, hStep, rfl, hResult⟩⟩
        · rw [registeredHandle, Call.lower_name hName]
          have hSmall := Call.Pattern.map_toLower_mem_smallName hName
          exact (Call.Pattern.isName_of_mem_smallName hSmall).1
        · exact ⟨name, source, hStep, rfl, hYields, rfl⟩
        · rw [hAfter]
          exact Nat.lt_succ_self _
      · exact .kept (by rw [hAfter, State.note, State.remember, Table.get?_put_of_ne _ hKey])

/-- A handle in the table was there before the step, or the step has made it. -/
theorem held_after {r : Registry ω} {x : Step ω} {s : State ω} {key : Text} {handle : Handle ω}
    (h : (x.after r s).handles.get? key = some (some handle)) :
    s.handles.get? key = some (some handle) ∨ (handle.name = key ∧ Made r x s handle) := by
  cases entry_after r x s key with
  | kept hSame => exact .inl (hSame.symm.trans h)
  | absent name _ _ _ hAfter =>
      rw [hAfter] at h
      cases h
  | made made hKey hAfter hMade =>
      rw [hAfter] at h
      cases h
      exact .inr ⟨hKey, hMade⟩

/-- A step leaves the entries of all keys alone but that of its subject. -/
theorem entry_frame {r : Registry ω} {x : Step ω} {s : State ω} {key : Text}
    (h : x.subject ≠ some key) : (x.after r s).handles.get? key = s.handles.get? key := by
  cases entry_after r x s key with
  | kept hSame => exact hSame
  | absent name hStep hKey =>
      subst hStep hKey
      exact absurd rfl h
  | made handle hKey _ hMade => exact absurd (hKey ▸ hMade.subject) h

/-- A handle stays. -/
theorem handle_after {s : State ω} {key : Text} {handle : Handle ω}
    (h : s.handles.get? key = some (some handle)) (r : Registry ω) (x : Step ω) :
    (x.after r s).handles.get? key = some (some handle) := by
  cases entry_after r x s key with
  | kept hSame => rw [hSame, h]
  | absent name _ _ hNew _ =>
      rw [hNew] at h
      cases h
  | made made hKey _ hMade =>
      subst hKey
      exact absurd h (hMade.free handle)

/-- An absent entry stays until the name is registered. -/
theorem absent_after {s : State ω} {key : Text} (h : s.handles.get? key = some none)
    (r : Registry ω) (x : Step ω) :
    (x.after r s).handles.get? key = some none ∨
    ∃ name source handle, x = .register name source ∧ Text.lower name = key ∧
      (r.register name source s).result = .ok handle := by
  cases entry_after r x s key with
  | kept hSame => exact .inl (hSame.trans h)
  | absent name _ _ _ hAfter => exact .inl hAfter
  | made handle hKey _ hMade =>
      subst hKey
      rcases hMade.step with ⟨name, _, _, hNew⟩ | ⟨name, source, hStep, hName, hResult⟩
      · rw [hNew] at h
        cases h
      · exact .inr ⟨name, source, handle, hStep, hName, hResult⟩

/-- What can become of the target of a name and an operation. -/
inductive Slot (r : Registry ω) (x : Step ω) (s : State ω) (name : Text)
    (operation : Operation) : Prop where
  | kept (hSame : (x.after r s).targets.get? (name, operation) =
      s.targets.get? (name, operation))
  | made (handle : Handle ω) (hStep : x = .bind handle operation) (hName : handle.name = name)
      (hNew : s.targets.get? (name, operation) = none)
      (hAfter : (x.after r s).targets.get? (name, operation) =
        some ⟨operation, handle.handler, s.nextSerial⟩)

/-- A step changes a target only from none to that of the handle it binds. -/
theorem slot_after (r : Registry ω) (x : Step ω) (s : State ω) (name : Text)
    (operation : Operation) : Slot r x s name operation := by
  cases effect r x s with
  | still world hAfter => exact .kept (by rw [hAfter])
  | noted event _ hAfter => exact .kept (by rw [hAfter, State.note])
  | broken other fault host _ _ _ hAfter => exact .kept (by rw [hAfter])
  | settled other entry host _ _ _ hAfter => exact .kept (by rw [hAfter, State.remember])
  | registered other source handler world _ _ _ _ _ hAfter =>
      exact .kept (by rw [hAfter, State.note, State.remember])
  | bound handle asked hStep hNew hAfter =>
      by_cases hSlot : (name, operation) = (handle.name, asked)
      · cases hSlot
        refine .made handle hStep rfl hNew ?_
        rw [hAfter, State.note, Table.get?_put_self]
      · exact .kept (by rw [hAfter, State.note, Table.get?_put_of_ne _ hSlot])

/-- A step about another name changes no target. -/
theorem slot_frame {r : Registry ω} {x : Step ω} {s : State ω} {name : Text}
    (h : x.subject ≠ some name) (operation : Operation) :
    (x.after r s).targets.get? (name, operation) = s.targets.get? (name, operation) := by
  cases slot_after r x s name operation with
  | kept hSame => exact hSame
  | made handle hStep hName =>
      subst hStep hName
      exact absurd rfl h

/-- Modules are looked up only for names that have no entry yet. -/
theorem probes_after (r : Registry ω) (x : Step ω) (s : State ω) :
    Adds (r.SearchesFor s) s.probes (x.after r s).probes := by
  have hNone : (x.after r s).probes = s.probes →
      Adds (r.SearchesFor s) s.probes (x.after r s).probes := by
    intro h
    rw [h]
    exact .refl _ _
  have hBuild : ∀ name, s.handles.get? name = none →
      (x.after r s).probes = (r.build name s.toHost).state.probes →
      Adds (r.SearchesFor s) s.probes (x.after r s).probes := by
    intro name hNew hProbes
    rw [hProbes]
    apply (build_searched r name s.toHost).probes.mono
    intro moduleName hModule
    exact ⟨name, hModule.1, hNew, hModule.2⟩
  cases effect r x s with
  | still world hAfter => exact hNone (by rw [hAfter])
  | noted event _ hAfter => exact hNone (by rw [hAfter]; rfl)
  | broken name fault host _ hNew hHost hAfter =>
      exact hBuild _ hNew (by rw [hAfter, hHost])
  | settled name entry host _ hNew hHost hAfter =>
      exact hBuild _ hNew (by rw [hAfter, hHost, State.remember])
  | registered name source handler world _ _ _ _ _ hAfter => exact hNone (by rw [hAfter]; rfl)
  | bound handle operation _ _ hAfter => exact hNone (by rw [hAfter]; rfl)

/-- No step takes an entry away. -/
theorem entry_known {s : State ω} {key : Text} (h : s.handles.get? key ≠ none) (r : Registry ω)
    (x : Step ω) : (x.after r s).handles.get? key ≠ none := by
  cases entry_after r x s key with
  | kept hSame => rwa [hSame]
  | absent name _ _ hNew _ => exact absurd hNew h
  | made handle _ hAfter _ =>
      rw [hAfter]
      exact Option.some_ne_none _

theorem nextSerial_after (r : Registry ω) (x : Step ω) (s : State ω) :
    s.nextSerial ≤ (x.after r s).nextSerial := by
  cases effect r x s with
  | still world hAfter => rw [hAfter]
  | noted event _ hAfter =>
      rw [hAfter]
      exact Nat.le_refl _
  | broken name fault host _ _ hHost hAfter =>
      have h := (build_searched r (Text.lower name) s.toHost).nextSerial
      rw [hHost] at h
      rw [hAfter]
      exact h
  | settled name entry host _ _ hHost hAfter =>
      have h := (build_searched r (Text.lower name) s.toHost).nextSerial
      rw [hHost] at h
      rw [hAfter]
      exact h
  | registered name source handler world _ _ _ _ _ hAfter =>
      rw [hAfter]
      exact Nat.le_succ _
  | bound handle operation _ _ hAfter =>
      rw [hAfter]
      exact Nat.le_succ _

end Step

end CommandMarkup.Registry
