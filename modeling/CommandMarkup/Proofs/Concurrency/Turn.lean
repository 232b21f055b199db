import CommandMarkup.Proofs.Concurrency.Machine
import CommandMarkup.Proofs.Registry.Building

/-! What the next step of a call is to the other calls. A call with the lock relies on what it saw
in the tables, and a call without it on nothing but that keys stay. So whatever a call is about to
put in is what it would have come to in one piece.

Main statement: `sound_next`. -/
namespace CommandMarkup

/-- What an order of calls has to account for: the tables, and the next serial number. -/
structure Ledger (ω : Type) extends Memory ω where
  nextSerial : Nat

/-- The ledger of a state. -/
def State.ledger {ω : Type} (s : State ω) : Ledger ω := ⟨s.toMemory, s.nextSerial⟩

namespace Registry

variable {ω ι : Type}

/-- The call comes to the result in one piece, and takes the one ledger to the other, in every state
with that ledger and that world. -/
def Performs (r : Registry ω) (request : Request ω) (world : ω) (before : Ledger ω)
    (result : Except Fault (Reply ω)) (after : Ledger ω) : Prop :=
  ∀ s : State ω, s.ledger = before → s.world = world →
    (r.perform request s).result = result ∧ (r.perform request s).state.ledger = after

/-- Whatever is in the tables before has an entry afterwards too. -/
structure Keeps (before after : Memory ω) : Prop where
  known : ∀ key, before.handles.get? key ≠ none → after.handles.get? key ≠ none
  bound : ∀ slot, before.targets.get? slot ≠ none → after.targets.get? slot ≠ none

theorem Keeps.refl (memory : Memory ω) : Keeps memory memory := ⟨fun _ h => h, fun _ h => h⟩

namespace Write

/-- The ledger with the new entry. -/
def enter : Write ω → Ledger ω → Ledger ω
  | entry key held, l => { l with handles := l.handles.put key held }
  | registered handle, l => { l with handles := l.handles.put handle.name (some handle) }
  | target name made, l => { l with targets := l.targets.put (name, made.operation) made }

/-- The next serial number before what is put in was made. -/
def serialBefore (next : Nat) : Write ω → Nat
  | entry _ none => next
  | entry _ (some handle) => handle.serial
  | registered handle => handle.serial
  | target _ made => made.serial

/-- There is no entry yet, or none that is a handle if one is registered. -/
def New (l : Ledger ω) : Write ω → Prop
  | entry key _ => l.handles.get? key = none
  | registered handle => ∀ held, l.handles.get? handle.name ≠ some (some held)
  | target name made => l.targets.get? (name, made.operation) = none

/-- Putting something into the state and entering it into the ledger come to the same. -/
theorem ledger_put (write : Write ω) (s : State ω) :
    (write.put s).ledger = write.enter s.ledger := by
  cases write <;> rfl

theorem keeps_put (write : Write ω) (s : State ω) :
    Keeps s.toMemory (write.put s).toMemory := by
  cases write with
  | entry name entry => exact ⟨fun _ => Table.get?_put_ne_none _ _ _, fun _ h => h⟩
  | registered handle => exact ⟨fun _ => Table.get?_put_ne_none _ _ _, fun _ h => h⟩
  | target name made => exact ⟨fun _ h => h, fun _ => Table.get?_put_ne_none _ _ _⟩

end Write

/-- The call goes to the lock for the task when it has met that world. -/
inductive Task.Of (r : Registry ω) (world : ω) : Request ω → Task ω → Prop where
  | find (name : Text) : Of r world (.resolve name) (.find (Text.lower name))
  | enter {name : Text} {source : Source ω} {handler : Handler ω} (hName : Call.isName name = true)
      (hHandler : ∀ s : State ω, s.world = world →
        (source.obtain r.settings s).result = .ok handler) :
      Of r world (.register name source) (.enter (Text.lower name) handler)
  | bind (handle : Handle ω) (operation : Text) :
      Of r world (.dispatchTarget handle operation) (.bind handle operation)

namespace Stage

/-- What has been accounted for: what was made is, as soon as it is put in. -/
def settled (l : Ledger ω) : Stage ω → Ledger ω
  | writing write => { l with nextSerial := write.serialBefore l.nextSerial }
  | _ => l

/-- The stage is one that the call can have come to, and what it has seen still holds. -/
def Fits (r : Registry ω) (request : Request ω) (world : ω) (l : Ledger ω) : Stage ω → Prop
  | called => True
  | fetching key => (Task.find key).Of r world request ∧ l.handles.get? key ≠ none
  | waiting task => task.Of r world request
  | entered task => task.Of r world request
  | refetching key => (Task.find key).Of r world request ∧ l.handles.get? key ≠ none
  | building key => (Task.find key).Of r world request ∧ l.handles.get? key = none
  | creating key handler =>
    (Task.enter key handler).Of r world request ∧ ∀ held, l.handles.get? key ≠ some (some held)
  | binding handle operation =>
    (∃ text, request = .dispatchTarget handle text ∧ Operation.ofText? text = some operation) ∧
      l.targets.get? (handle.name, operation) = none
  | writing write =>
    write.New l ∧
      Performs r request world ((writing write).settled l) (.ok write.reply) (write.enter l)
  | leaving _ => True
  | announcing _ => True
  | answered _ => True
  | lost => False

/-- Between the stages nothing is settled and accounted for, or the result is, as the call comes to
it in one piece. -/
def Decides (r : Registry ω) (request : Request ω) (world : ω) (stage next : Stage ω)
    (before after : Ledger ω) : Prop :=
  (next.result? = stage.result? ∧ after = before) ∨
  (stage.result? = none ∧ ∃ result, next.result? = some result ∧
    Performs r request world before result after)

end Stage

section Performing

variable {r : Registry ω} {world : ω} {l : Ledger ω}

/-- A name that is in the table resolves to its entry, and nothing changes. -/
theorem performs_known {name : Text} {entry : Option (Handle ω)}
    (h : l.handles.get? (Text.lower name) = some entry) :
    Performs r (.resolve name) world l (.ok (.entry entry)) l := by
  rintro s rfl _
  rw [perform, resolve_known r h]
  exact ⟨rfl, rfl⟩

/-- A name that is not known is built, and any host with the same world and next serial number
will do to see what comes of it. -/
theorem resolve_unknown (r : Registry ω) {name : Text} {s : State ω} {host : Host ω}
    (hNew : s.handles.get? (Text.lower name) = none) (hWorld : host.world = s.world)
    (hSerial : host.nextSerial = s.nextSerial) :
    (r.resolve name s).result = (r.build (Text.lower name) host).result ∧
      (r.resolve name s).state.ledger =
        ⟨match (r.build (Text.lower name) host).result with
          | .ok entry => { s.toMemory with handles := s.handles.put (Text.lower name) entry }
          | .error _ => s.toMemory,
          (r.build (Text.lower name) host).state.nextSerial⟩ := by
  obtain ⟨hResult, hNext⟩ := build_congr r (Text.lower name)
    (fun _ _ => by rw [hWorld]) hSerial
  rw [hResult, hNext, resolve, hNew]
  cases r.build (Text.lower name) s.toHost with
  | mk result after =>
      cases result with
      | ok entry => exact ⟨rfl, rfl⟩
      | error fault => exact ⟨rfl, rfl⟩

/-- A new name resolves to what building comes to, which is in the table afterwards. The host may
have been another one, with the same world and the same next serial number. -/
theorem performs_built {name : Text} {host : Host ω} {entry : Option (Handle ω)}
    (hNew : l.handles.get? (Text.lower name) = none) (hWorld : host.world = world)
    (hSerial : host.nextSerial = l.nextSerial)
    (hBuild : (r.build (Text.lower name) host).result = .ok entry) :
    Performs r (.resolve name) world l (.ok (.entry entry))
      ⟨{ l.toMemory with handles := l.handles.put (Text.lower name) entry },
        (r.build (Text.lower name) host).state.nextSerial⟩ := by
  rintro s rfl rfl
  obtain ⟨hResult, hLedger⟩ := resolve_unknown r hNew hWorld hSerial
  rw [hBuild] at hResult hLedger
  rw [perform, hResult, hLedger]
  exact ⟨rfl, rfl⟩

/-- A fault while a new name is built is passed on, and leaves no entry. -/
theorem performs_broken {name : Text} {host : Host ω} {fault : Fault}
    (hNew : l.handles.get? (Text.lower name) = none) (hWorld : host.world = world)
    (hSerial : host.nextSerial = l.nextSerial)
    (hBuild : (r.build (Text.lower name) host).result = .error fault) :
    Performs r (.resolve name) world l (.error fault) l := by
  rintro s rfl rfl
  obtain ⟨hResult, hLedger⟩ := resolve_unknown r hNew hWorld hSerial
  have hNext : (r.build (Text.lower name) host).state.nextSerial = s.nextSerial := by
    rcases build_serial r (Text.lower name) host with ⟨handle, hOk, _⟩ | ⟨_, hSame⟩
    · rw [hBuild] at hOk
      cases hOk
    · exact hSame.trans hSerial
  rw [hBuild] at hResult hLedger
  rw [perform, hResult, hLedger, hNext]
  exact ⟨rfl, rfl⟩

theorem performs_invalid {name : Text} (source : Source ω) (hName : Call.isName name = false) :
    Performs r (.register name source) world l (.error (.invalidName name)) l := by
  rintro s rfl _
  rw [perform, register_invalid r source s hName]
  exact ⟨rfl, rfl⟩

theorem performs_raising {name : Text} {source : Source ω} {fault : Fault}
    (hName : Call.isName name = true)
    (hFault : ∀ s : State ω, s.world = world →
      (source.obtain r.settings s).result = .error fault) :
    Performs r (.register name source) world l (.error fault) l := by
  rintro s rfl hWorld
  rw [perform, register_fault hName (hFault s hWorld), obtain_state]
  exact ⟨rfl, rfl⟩

/-- Where there is a handle under the key, a registration is refused, though its handler was
obtained. -/
theorem performs_held {request : Request ω} {key : Text} {handler : Handler ω} {held : Handle ω}
    (hOf : (Task.enter key handler).Of r world request)
    (hHeld : l.handles.get? key = some (some held)) :
    Performs r request world l (.error (.alreadyResolved key)) l := by
  rintro s rfl hWorld
  cases hOf with
  | enter hName hHandler =>
      rw [perform, register_held hName (hHandler s hWorld) hHeld, obtain_state]
      exact ⟨rfl, rfl⟩

/-- Where there is none, the handler gets a handle with the next serial number, and it takes the
place of an entry without one. -/
theorem performs_registered {request : Request ω} {key : Text} {handler : Handler ω}
    (hOf : (Task.enter key handler).Of r world request)
    (hFree : ∀ held, l.handles.get? key ≠ some (some held)) :
    Performs r request world l (.ok (.registered ⟨key, registeredModule, handler, l.nextSerial⟩))
      ⟨{ l.toMemory with
          handles := l.handles.put key
            (some ⟨key, registeredModule, handler, l.nextSerial⟩) },
        l.nextSerial + 1⟩ := by
  rintro s rfl hWorld
  cases hOf with
  | enter hName hHandler =>
      rw [perform, register_free hName (hHandler s hWorld) hFree]
      exact ⟨rfl, rfl⟩

theorem performs_bound {handle : Handle ω} {text : Text} {operation : Operation}
    {target : Target ω} (hOperation : Operation.ofText? text = some operation)
    (hTarget : l.targets.get? (handle.name, operation) = some target) :
    Performs r (.dispatchTarget handle text) world l (.ok (.target target)) l := by
  rintro s rfl _
  have hBind : bind handle operation s = .ok target s := bind_known hTarget
  simp only [perform, dispatchTarget, hOperation, hBind]
  exact ⟨rfl, rfl⟩

/-- An operation without a target gets one with the next serial number. -/
theorem performs_target {handle : Handle ω} {text : Text} {operation : Operation}
    (hOperation : Operation.ofText? text = some operation)
    (hNew : l.targets.get? (handle.name, operation) = none) :
    Performs r (.dispatchTarget handle text) world l
      (.ok (.target ⟨operation, handle.handler, l.nextSerial⟩))
      ⟨{ l.toMemory with
          targets := l.targets.put (handle.name, operation)
            ⟨operation, handle.handler, l.nextSerial⟩ },
        l.nextSerial + 1⟩ := by
  rintro s rfl _
  simp only [perform, dispatchTarget, hOperation, bind_new hNew]
  exact ⟨rfl, rfl⟩

theorem performs_unknown (handle : Handle ω) {text : Text}
    (hOperation : Operation.ofText? text = none) :
    Performs r (.dispatchTarget handle text) world l (.error (.unknownOperation handle.name text))
      l := by
  rintro s rfl _
  simp only [perform, dispatchTarget, hOperation]
  exact ⟨rfl, rfl⟩

end Performing

/-- Obtaining a handler depends on nothing but the world. -/
theorem obtain_congr (source : Source ω) (settings : Settings) {s t : State ω}
    (hWorld : s.world = t.world) :
    (source.obtain settings s).result = (source.obtain settings t).result := by
  cases source with
  | ofHandler handler => rfl
  | ofClass handlerClass => rw [Source.obtain, Source.obtain, hWorld]

theorem boundTarget?_some {handle : Handle ω} {text : Text} {s : State ω} {target : Target ω}
    (h : boundTarget? handle text s = some target) :
    ∃ operation, Operation.ofText? text = some operation ∧
      s.targets.get? (handle.name, operation) = some target := by
  rw [boundTarget?] at h
  cases hOperation : Operation.ofText? text with
  | none =>
      rw [hOperation] at h
      cases h
  | some operation =>
      rw [hOperation] at h
      exact ⟨operation, rfl, h⟩

/-- What the step of a call is to the others: it happens without the lock and leaves the ledger as
it is, it takes the lock, it happens with the lock and empties no entry, or it gives the lock
back. -/
inductive Turn.Move (r : Registry ω) (i : ι) (request : Request ω) (world : ω)
    (t t' : Turn ι ω) : Prop where
  | apart (hBefore : t.stage.holds = false) (hAfter : t'.stage.holds = false)
      (hLock : t'.lock = t.lock) (hLedger : t'.state.ledger = t.state.ledger)
      (hDecides : ∀ l : Ledger ω, l.toMemory = t.state.toMemory →
        Stage.Decides r request world t.stage t'.stage l l)
  | taking (hBefore : t.stage.holds = false) (hAfter : t'.stage.holds = true)
      (hFree : t.lock = none) (hLock : t'.lock = some i) (hState : t'.state = t.state)
      (hDecides : Stage.Decides r request world t.stage t'.stage
        t.state.ledger (t'.stage.settled t'.state.ledger))
  | within (hBefore : t.stage.holds = true) (hAfter : t'.stage.holds = true)
      (hLock : t'.lock = t.lock)
      (hKeeps : Keeps t.state.toMemory t'.state.toMemory)
      (hDecides : Stage.Decides r request world t.stage t'.stage
        (t.stage.settled t.state.ledger) (t'.stage.settled t'.state.ledger))
  | leaving (hBefore : t.stage.holds = true) (hAfter : t'.stage.holds = false)
      (hLock : t'.lock = none) (hState : t'.state = t.state)
      (hDecides : Stage.Decides r request world t.stage t'.stage
        (t.stage.settled t.state.ledger) t'.state.ledger)

namespace Turn

/-- The world that a call has met after its next step, if it had met that one before. -/
def meets (world : ω) (t : Turn ι ω) : ω := if t.stage.constructs then t.state.world else world

/-- The next step of a call is one of the moves and leads to a stage that fits. -/
structure Sound (r : Registry ω) (i : ι) (request : Request ω) (world : ω)
    (t t' : Turn ι ω) : Prop where
  move : Move r i request world t t'
  fits : t'.stage.Fits r request world t'.state.ledger

variable {r : Registry ω} {i : ι} {request : Request ω} {world : ω} {s : State ω}
  {lock : Option ι}

/-- The first step is taken without the lock. It looks into the tables and constructs what is to be
registered, and no table changes. -/
theorem sound_called (request : Request ω) : Sound r i request s.world ⟨s, lock, .called⟩
    (next r i request ⟨s, lock, .called⟩) := by
  cases request with
  | resolve name =>
      cases hEntry : s.handles.get? (Text.lower name) with
      | some entry =>
          simp only [next, Request.begin, hEntry, Option.isSome_some, if_true]
          refine ⟨.apart rfl rfl rfl rfl fun l _ => .inl ⟨rfl, rfl⟩, .find name, ?_⟩
          exact ne_of_eq_of_ne hEntry (Option.some_ne_none entry)
      | none =>
          simp only [next, Request.begin, hEntry, Option.isSome_none, if_false, Bool.false_eq_true]
          exact ⟨.apart rfl rfl rfl rfl fun l _ => .inl ⟨rfl, rfl⟩, .find name⟩
  | register name source =>
      cases hName : Call.isName name with
      | false =>
          simp only [next, Request.begin, hName, if_false, Bool.false_eq_true]
          exact ⟨.apart rfl rfl rfl rfl fun l _ =>
            .inr ⟨rfl, _, rfl, performs_invalid source hName⟩, trivial⟩
      | true =>
          have hSame : (source.obtain r.settings s).state.ledger = s.ledger := by
            rw [obtain_state]
            rfl
          have hResult : ∀ other : State ω, other.world = s.world →
              (source.obtain r.settings other).result = (source.obtain r.settings s).result :=
            fun other hWorld => obtain_congr source r.settings hWorld
          cases hObtain : source.obtain r.settings s with
          | mk result after =>
              rw [hObtain] at hSame hResult
              cases result with
              | ok handler =>
                  simp only [next, Request.begin, hName, if_true, hObtain]
                  exact ⟨.apart rfl rfl rfl hSame fun l _ => .inl ⟨rfl, rfl⟩, .enter hName hResult⟩
              | error fault =>
                  simp only [next, Request.begin, hName, if_true, hObtain]
                  exact ⟨.apart rfl rfl rfl hSame fun l _ =>
                    .inr ⟨rfl, _, rfl, performs_raising hName hResult⟩, trivial⟩
  | dispatchTarget handle text =>
      cases hBound : boundTarget? handle text s with
      | some target =>
          obtain ⟨operation, hOperation, hTarget⟩ := boundTarget?_some hBound
          simp only [next, Request.begin, hBound]
          refine ⟨.apart rfl rfl rfl rfl fun l hMemory => .inr ⟨rfl, _, rfl, ?_⟩, trivial⟩
          exact performs_bound hOperation (by rw [hMemory, hTarget])
      | none =>
          simp only [next, Request.begin, hBound]
          exact ⟨.apart rfl rfl rfl rfl fun l _ => .inl ⟨rfl, rfl⟩, .bind handle text⟩

theorem sound_fetching {key : Text} (hFits : (Stage.fetching key).Fits r request world s.ledger) :
    Sound r i request world ⟨s, lock, .fetching key⟩
      (next r i request ⟨s, lock, .fetching key⟩) := by
  obtain ⟨hOf, hKnown⟩ := hFits
  obtain ⟨entry, hEntry⟩ := Option.ne_none_iff_exists'.mp hKnown
  cases hOf with
  | find name =>
      have hGet : s.handles.get? (Text.lower name) = some entry := hEntry
      simp only [next, hGet]
      refine ⟨.apart rfl rfl rfl rfl fun l hMemory => .inr ⟨rfl, _, rfl, ?_⟩, trivial⟩
      exact performs_known (by rw [hMemory, hGet])

/-- A call that waits takes the lock if it is free, or stays where it is. -/
theorem sound_waiting {task : Task ω} (hOf : task.Of r world request) :
    Sound r i request world ⟨s, lock, .waiting task⟩
      (next r i request ⟨s, lock, .waiting task⟩) := by
  cases lock with
  | none => exact ⟨.taking rfl rfl rfl rfl rfl (.inl ⟨rfl, rfl⟩), hOf⟩
  | some holder => exact ⟨.apart rfl rfl rfl rfl fun l _ => .inl ⟨rfl, rfl⟩, hOf⟩

/-- With the lock, the call looks again; what it sees now holds until it gives the lock back. -/
theorem sound_entered {task : Task ω} (hOf : task.Of r world request) :
    Sound r i request world ⟨s, lock, .entered task⟩
      (next r i request ⟨s, lock, .entered task⟩) := by
  cases hOf with
  | find name =>
      cases hEntry : s.handles.get? (Text.lower name) with
      | some entry =>
          simp only [next, Task.look, hEntry, Option.isSome_some, if_true]
          refine ⟨.within rfl rfl rfl (.refl _) (.inl ⟨rfl, rfl⟩), .find name, ?_⟩
          exact ne_of_eq_of_ne hEntry (Option.some_ne_none entry)
      | none =>
          simp only [next, Task.look, hEntry, Option.isSome_none, if_false, Bool.false_eq_true]
          exact ⟨.within rfl rfl rfl (.refl _) (.inl ⟨rfl, rfl⟩), .find name, hEntry⟩
  | enter hName hHandler =>
      rename_i name source handler
      have hOf : (Task.enter (Text.lower name) handler).Of r world (.register name source) :=
        .enter hName hHandler
      by_cases hHeld : ∃ held, s.handles.get? (Text.lower name) = some (some held)
      · obtain ⟨held, hHeld⟩ := hHeld
        simp only [next, Task.look, hHeld]
        exact ⟨.within rfl rfl rfl (.refl _)
          (.inr ⟨rfl, _, rfl, performs_held hOf hHeld⟩), trivial⟩
      · have hLook : (Task.enter (Text.lower name) handler).look s =
            .creating (Text.lower name) handler := by
          rw [Task.look]
          split
          case h_1 held hGet => exact absurd ⟨held, hGet⟩ hHeld
          case h_2 => rfl
        simp only [next, hLook]
        exact ⟨.within rfl rfl rfl (.refl _) (.inl ⟨rfl, rfl⟩), hOf,
          fun held hGet => hHeld ⟨held, hGet⟩⟩
  | bind handle text =>
      cases hOperation : Operation.ofText? text with
      | none =>
          simp only [next, Task.look, boundTarget?, hOperation]
          exact ⟨.within rfl rfl rfl (.refl _)
            (.inr ⟨rfl, _, rfl, performs_unknown handle hOperation⟩), trivial⟩
      | some operation =>
          cases hTarget : s.targets.get? (handle.name, operation) with
          | some target =>
              simp only [next, Task.look, boundTarget?, hOperation, hTarget]
              exact ⟨.within rfl rfl rfl (.refl _)
                (.inr ⟨rfl, _, rfl, performs_bound hOperation hTarget⟩), trivial⟩
          | none =>
              simp only [next, Task.look, boundTarget?, hOperation, hTarget]
              exact ⟨.within rfl rfl rfl (.refl _) (.inl ⟨rfl, rfl⟩),
                ⟨text, rfl, hOperation⟩, hTarget⟩

theorem sound_refetching {key : Text}
    (hFits : (Stage.refetching key).Fits r request world s.ledger) :
    Sound r i request world ⟨s, lock, .refetching key⟩
      (next r i request ⟨s, lock, .refetching key⟩) := by
  obtain ⟨hOf, hKnown⟩ := hFits
  obtain ⟨entry, hEntry⟩ := Option.ne_none_iff_exists'.mp hKnown
  cases hOf with
  | find name =>
      have hGet : s.handles.get? (Text.lower name) = some entry := hEntry
      simp only [next, hGet]
      exact ⟨.within rfl rfl rfl (.refl _) (.inr ⟨rfl, _, rfl, performs_known hGet⟩), trivial⟩

/-- Building makes the handle and takes its serial number, but the entry is put in by the step after
it. Until then the ledger counts it as not yet made. -/
theorem sound_building {key : Text} (hFits : (Stage.building key).Fits r request world s.ledger) :
    Sound r i request s.world ⟨s, lock, .building key⟩
      (next r i request ⟨s, lock, .building key⟩) := by
  obtain ⟨hOf, hNew⟩ := hFits
  cases hOf with
  | find name =>
      have hSerial := build_serial r (Text.lower name) s.toHost
      cases hBuild : r.build (Text.lower name) s.toHost with
      | mk result after =>
          rw [hBuild] at hSerial
          cases result with
          | error fault =>
              have hNext : after.nextSerial = s.nextSerial := by
                rcases hSerial with ⟨handle, hOk, _⟩ | ⟨_, hSame⟩
                · cases hOk
                · exact hSame
              have hLedger : State.ledger { s with toHost := after } = s.ledger := by
                rw [State.ledger, hNext]
                rfl
              simp only [next, State.onHost, hBuild]
              refine ⟨.within rfl rfl rfl (.refl _) (.inr ⟨rfl, _, rfl, ?_⟩), trivial⟩
              change Performs r _ s.world s.ledger _ (State.ledger { s with toHost := after })
              rw [hLedger]
              exact performs_broken hNew rfl rfl (congrArg Outcome.result hBuild)
          | ok entry =>
              have hBefore : (Write.entry (Text.lower name) entry).serialBefore after.nextSerial =
                  s.nextSerial := by
                rcases hSerial with ⟨handle, hOk, hHandle, _⟩ | ⟨hNone, hSame⟩
                · cases hOk
                  exact hHandle
                · cases entry with
                  | none => exact hSame
                  | some handle => exact absurd rfl (hNone handle)
              have hSettled : (Stage.writing (Write.entry (Text.lower name) entry)).settled
                  (State.ledger { s with toHost := after }) = s.ledger := by
                rw [Stage.settled, State.ledger, hBefore]
                rfl
              have hPerforms := performs_built (r := r) (l := s.ledger) hNew rfl rfl
                (congrArg Outcome.result hBuild)
              rw [hBuild] at hPerforms
              simp only [next, State.onHost, hBuild]
              refine ⟨.within rfl rfl rfl (.refl _) (.inl ⟨rfl, hSettled⟩), hNew, ?_⟩
              rw [hSettled]
              exact hPerforms

/-- A handle for a registration is made like one that is built: first the serial number, then the
entry. -/
theorem sound_creating {key : Text} {handler : Handler ω}
    (hFits : (Stage.creating key handler).Fits r request world s.ledger) :
    Sound r i request world ⟨s, lock, .creating key handler⟩
      (next r i request ⟨s, lock, .creating key handler⟩) :=
  ⟨.within rfl rfl rfl (.refl _) (.inl ⟨rfl, rfl⟩), hFits.2, performs_registered hFits.1 hFits.2⟩

theorem sound_binding {handle : Handle ω} {operation : Operation}
    (hFits : (Stage.binding handle operation).Fits r request world s.ledger) :
    Sound r i request world ⟨s, lock, .binding handle operation⟩
      (next r i request ⟨s, lock, .binding handle operation⟩) := by
  obtain ⟨⟨text, rfl, hOperation⟩, hNew⟩ := hFits
  exact ⟨.within rfl rfl rfl (.refl _) (.inl ⟨rfl, rfl⟩), hNew, performs_target hOperation hNew⟩

/-- Putting in what was made settles the result of the call, and this is the point at which it takes
effect. -/
theorem sound_writing {write : Write ω}
    (hFits : (Stage.writing write).Fits r request world s.ledger) :
    Sound r i request world ⟨s, lock, .writing write⟩
      (next r i request ⟨s, lock, .writing write⟩) := by
  refine ⟨.within rfl rfl rfl (write.keeps_put s) (.inr ⟨rfl, _, rfl, ?_⟩), trivial⟩
  rw [next, Stage.settled, write.ledger_put]
  exact hFits.2

theorem sound_leaving (result : Except Fault (Reply ω)) :
    Sound r i request world ⟨s, lock, .leaving result⟩
      (next r i request ⟨s, lock, .leaving result⟩) := by
  cases result with
  | error fault => exact ⟨.leaving rfl rfl rfl rfl (.inl ⟨rfl, rfl⟩), trivial⟩
  | ok reply =>
      cases reply with
      | entry entry => exact ⟨.leaving rfl rfl rfl rfl (.inl ⟨rfl, rfl⟩), trivial⟩
      | registered handle => exact ⟨.leaving rfl rfl rfl rfl (.inl ⟨rfl, rfl⟩), trivial⟩
      | target target => exact ⟨.leaving rfl rfl rfl rfl (.inl ⟨rfl, rfl⟩), trivial⟩

/-- A stage that fits leads to one that fits, in a move that the others can rely on. -/
theorem sound_next {t : Turn ι ω} (hFits : t.stage.Fits r request world t.state.ledger) :
    Sound r i request (t.meets world) t (t.next r i request) := by
  obtain ⟨s, lock, stage⟩ := t
  cases stage with
  | called => exact sound_called request
  | fetching key => exact sound_fetching hFits
  | waiting task => exact sound_waiting hFits
  | entered task => exact sound_entered hFits
  | refetching key => exact sound_refetching hFits
  | building key => exact sound_building hFits
  | creating key handler => exact sound_creating hFits
  | binding handle operation => exact sound_binding hFits
  | writing write => exact sound_writing hFits
  | leaving result => exact sound_leaving result
  | announcing handle =>
      exact ⟨.apart rfl rfl rfl rfl fun l _ => .inl ⟨rfl, rfl⟩, trivial⟩
  | answered result => exact ⟨.apart rfl rfl rfl rfl fun l _ => .inl ⟨rfl, rfl⟩, trivial⟩
  | lost => exact hFits.elim

end Turn

end Registry

end CommandMarkup
