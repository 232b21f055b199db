import CommandMarkup.Proofs.Concurrency.Reply

/-! Calls one after the other as a run. In a run each call meets the world that the last one left,
while at the same time it may meet any other. That makes no difference if what classes construct
does not depend on the world.

Main statement: `Ordered.run`. -/
namespace CommandMarkup.Registry

variable {ω ι : Type} {r : Registry ω}

/-- Whether the class constructs a handler, and which, does not depend on the world. -/
def SteadyClass (settings : Settings) (handlerClass : HandlerClass ω) : Prop :=
  ∀ world other, (handlerClass.construct settings world).result =
    (handlerClass.construct settings other).result

/-- All classes that modules define are steady. -/
def Steady (r : Registry ω) : Prop :=
  ∀ handlerClass, r.Provides handlerClass → SteadyClass r.settings handlerClass

/-- A class that is registered is steady too. -/
def Request.Steady (settings : Settings) : Request ω → Prop
  | register _ (.ofClass handlerClass) => SteadyClass settings handlerClass
  | _ => True

/-- The handler of a steady class is the same whichever world it is constructed in. -/
theorem obtain_steady {settings : Settings} {name : Text} {source : Source ω}
    (hSteady : (Request.register name source).Steady settings) (s t : State ω) :
    (source.obtain settings s).result = (source.obtain settings t).result := by
  cases source with
  | ofHandler handler => rfl
  | ofClass handlerClass => exact hSteady s.world t.world

/-- Resolving looks at the ledger and, as long as classes are steady, at nothing else of the
state. -/
theorem perform_resolve_congr (hSteady : r.Steady) (name : Text) {s t : State ω}
    (hLedger : s.ledger = t.ledger) :
    (r.perform (.resolve name) s).result = (r.perform (.resolve name) t).result ∧
      (r.perform (.resolve name) s).state.ledger = (r.perform (.resolve name) t).state.ledger := by
  have hMemory : s.toMemory = t.toMemory := congrArg Ledger.toMemory hLedger
  have hSerial : s.nextSerial = t.nextSerial := congrArg Ledger.nextSerial hLedger
  cases hEntry : s.handles.get? (Text.lower name) with
  | some entry =>
      have hSame : t.handles.get? (Text.lower name) = some entry := by rw [← hMemory, hEntry]
      rw [perform, perform, resolve_known r hEntry, resolve_known r hSame]
      exact ⟨rfl, hLedger⟩
  | none =>
      have hSame : t.handles.get? (Text.lower name) = none := by rw [← hMemory, hEntry]
      have hBuild := build_congr r (Text.lower name)
        (fun handlerClass hProvides => hSteady handlerClass hProvides _ _) hSerial
      obtain ⟨hResult, hAfter⟩ :=
        resolve_unknown r hEntry (rfl : s.toHost.world = s.world) rfl
      obtain ⟨hResult', hAfter'⟩ :=
        resolve_unknown r hSame (rfl : t.toHost.world = t.world) rfl
      rw [perform, perform, hResult, hResult', hAfter, hAfter', hBuild.1, hBuild.2, hMemory]
      exact ⟨rfl, rfl⟩

theorem perform_register_congr {name : Text} {source : Source ω}
    (hSteady : (Request.register name source).Steady r.settings) {s t : State ω}
    (hLedger : s.ledger = t.ledger) :
    (r.perform (.register name source) s).result = (r.perform (.register name source) t).result ∧
      (r.perform (.register name source) s).state.ledger =
        (r.perform (.register name source) t).state.ledger := by
  have hMemory : s.toMemory = t.toMemory := congrArg Ledger.toMemory hLedger
  have hSerial : s.nextSerial = t.nextSerial := congrArg Ledger.nextSerial hLedger
  have hObtain := obtain_steady hSteady s t
  have hLedgers : ∀ u v : ω,
      State.ledger { s with world := u } = State.ledger { t with world := v } :=
    fun _ _ => hLedger
  cases hName : Call.isName name with
  | false =>
      rw [perform, perform, register_invalid r source s hName, register_invalid r source t hName]
      exact ⟨rfl, hLedger⟩
  | true =>
      cases hSource : (source.obtain r.settings s).result with
      | error fault =>
          rw [perform, perform, register_fault hName hSource,
            register_fault hName (hObtain.symm.trans hSource), obtain_state,
            obtain_state source _ t]
          exact ⟨rfl, hLedgers _ _⟩
      | ok handler =>
          have hSource' := hObtain.symm.trans hSource
          by_cases hFree : Free s (Text.lower name)
          · have hFree' : Free t (Text.lower name) := by
              intro held
              rw [← hMemory]
              exact hFree held
            rw [perform, perform, register_free hName hSource hFree,
              register_free hName hSource' hFree', registeredHandle, registeredHandle, hSerial]
            refine ⟨rfl, ?_⟩
            simp only [Outcome.ok, State.ledger, State.note, State.remember, Host.note, hMemory]
          · obtain ⟨held, hHeld⟩ := not_forall_not.mp hFree
            have hHeld' : t.handles.get? (Text.lower name) = some (some held) := by
              rw [← hMemory, hHeld]
            rw [perform, perform, register_held hName hSource hHeld,
              register_held hName hSource' hHeld', obtain_state, obtain_state source _ t]
            exact ⟨rfl, hLedgers _ _⟩

theorem perform_dispatchTarget_congr (r : Registry ω) (handle : Handle ω) (text : Text)
    {s t : State ω} (hLedger : s.ledger = t.ledger) :
    (r.perform (.dispatchTarget handle text) s).result =
        (r.perform (.dispatchTarget handle text) t).result ∧
      (r.perform (.dispatchTarget handle text) s).state.ledger =
        (r.perform (.dispatchTarget handle text) t).state.ledger := by
  have hMemory : s.toMemory = t.toMemory := congrArg Ledger.toMemory hLedger
  have hSerial : s.nextSerial = t.nextSerial := congrArg Ledger.nextSerial hLedger
  cases hOperation : Operation.ofText? text with
  | none =>
      simp only [perform, dispatchTarget, hOperation]
      exact ⟨rfl, hLedger⟩
  | some operation =>
      have hSlot : t.targets.get? (handle.name, operation) =
          s.targets.get? (handle.name, operation) := by rw [hMemory]
      cases hTarget : s.targets.get? (handle.name, operation) with
      | some target =>
          have hBind := bind_known (hSlot.trans hTarget)
          simp only [perform, dispatchTarget, hOperation, bind_known hTarget, hBind]
          exact ⟨rfl, hLedger⟩
      | none =>
          have hBind := bind_new (hSlot.trans hTarget)
          simp only [perform, dispatchTarget, hOperation, bind_new hTarget, hBind, hSerial]
          refine ⟨rfl, ?_⟩
          simp only [Outcome.ok, State.ledger, State.note, Host.note, hMemory]

/-- What a call comes to, and the ledger that it leaves, depend on nothing but the ledger that it
meets. -/
theorem perform_congr (hSteady : r.Steady) {request : Request ω}
    (hRequest : request.Steady r.settings) {s t : State ω} (hLedger : s.ledger = t.ledger) :
    (r.perform request s).result = (r.perform request t).result ∧
      (r.perform request s).state.ledger = (r.perform request t).state.ledger := by
  cases request with
  | resolve name => exact perform_resolve_congr hSteady name hLedger
  | register name source => exact perform_register_congr hRequest hLedger
  | dispatchTarget handle text => exact perform_dispatchTarget_congr r handle text hLedger

variable {request : ι → Request ω}

/-- The calls in that order, as the actions of a run. -/
def actions (request : ι → Request ω) (order : List ι) : List (Action ω) :=
  order.map fun i => (request i).action

/-- Where classes are steady, it does not matter that each call met a world of its own: a run of the
same calls leaves the same ledger. -/
theorem replay_run (hSteady : r.Steady) (hRequests : ∀ i, (request i).Steady r.settings)
    (met : ι → ω) (order : List ι) {s t : State ω} (hLedger : s.ledger = t.ledger) :
    (replay r request met order s).ledger = (run r (actions request order) t).ledger := by
  induction order generalizing s t with
  | nil => exact hLedger
  | cons i order ih =>
      have hFirst := (perform_congr (r := r) hSteady (hRequests i)
        (s := { s with world := met i }) (t := t) hLedger).2
      rw [perform_state r (request i) t] at hFirst
      exact ih hFirst

/-- The results and the tables are those of a run of the calls in order. -/
theorem Ordered.run {s : State ω} {m : Machine ι ω} (h : Ordered r request s m)
    (hSteady : r.Steady) (hRequests : ∀ i, (request i).Steady r.settings) :
    (Registry.run r (actions request m.order) s).toMemory = m.state.toMemory ∧
    ∀ before i after, m.order = before ++ i :: after → (m.stage i).result? =
      some (r.perform (request i) (Registry.run r (actions request before) s)).result := by
  refine ⟨?_, fun before i after hSplit => ?_⟩
  · rw [← h.memory]
    exact congrArg Ledger.toMemory (replay_run hSteady hRequests m.met m.order rfl).symm
  · rw [h.results before i after hSplit]
    have hBefore : State.ledger { replay r request m.met before s with world := m.met i } =
        (Registry.run r (actions request before) s).ledger :=
      replay_run hSteady hRequests m.met before rfl
    exact congrArg some (perform_congr hSteady (hRequests i) hBefore).1

end CommandMarkup.Registry
