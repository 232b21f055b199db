import CommandMarkup.Proofs.Concurrency.Linear
import CommandMarkup.Proofs.Registry.Target

/-! What calls at the same time give back is found in the tables from then on. In one piece, a call
leaves what it gives back in its table, and no call takes it out again; so it is with calls at the
same time, in the order of their results.

Main statements: `Ordered.recorded`, `Ordered.registered_once`. -/
namespace CommandMarkup.Registry

variable {ω ι : Type} {r : Registry ω}

/-- The call as an action of a run. -/
def Request.action : Request ω → Action ω
  | resolve name => .resolve name
  | register name source => .register name source
  | dispatchTarget handle operation => .dispatchTarget handle operation

theorem perform_state (r : Registry ω) (request : Request ω) (s : State ω) :
    (r.perform request s).state = run r [request.action] s := by
  cases request <;> rfl

/-- The reply is one to the call, and its handle or its target is in the table. -/
inductive Recorded (memory : Memory ω) : Request ω → Reply ω → Prop where
  | absent (name : Text) : Recorded memory (.resolve name) (.entry none)
  | resolved {name : Text} {handle : Handle ω}
      (h : memory.handles.get? (Text.lower name) = some (some handle)) :
      Recorded memory (.resolve name) (.entry (some handle))
  | registered {name : Text} {source : Source ω} {handle : Handle ω}
      (h : memory.handles.get? (Text.lower name) = some (some handle)) :
      Recorded memory (.register name source) (.registered handle)
  | target {handle : Handle ω} {text : Text} {operation : Operation} {target : Target ω}
      (hOperation : Operation.ofText? text = some operation)
      (h : memory.targets.get? (handle.name, operation) = some target) :
      Recorded memory (.dispatchTarget handle text) (.target target)

/-- A handle that is registered is in the table afterwards, under the name in small letters. -/
theorem register_held_after {name : Text} {source : Source ω} {s : State ω} {handle : Handle ω}
    (h : (r.register name source s).result = .ok handle) :
    (r.register name source s).state.handles.get? (Text.lower name) = some (some handle) := by
  rcases register_cases r name source s with ⟨fault, world, hFail⟩ | ⟨_, _, _, _, hResult, hState⟩
  · rw [hFail] at h
    cases h
  · rw [hResult] at h
    cases h
    rw [hState]
    exact Table.get?_put_self _ _ _

theorem exists_of_map_eq_ok {α β : Type} {f : α → β} {result : Except Fault α} {b : β}
    (h : result.map f = .ok b) : ∃ a, result = .ok a ∧ f a = b := by
  cases result with
  | error fault => cases h
  | ok a => exact ⟨a, rfl, Except.ok.inj h⟩

/-- A call in one piece leaves what it gives back in its table. -/
theorem recorded_perform {request : Request ω} {s : State ω} {reply : Reply ω}
    (h : (r.perform request s).result = .ok reply) :
    Recorded (r.perform request s).state.toMemory request reply := by
  cases request with
  | resolve name =>
      obtain ⟨entry, hResult, rfl⟩ := exists_of_map_eq_ok h
      cases entry with
      | none => exact .absent name
      | some handle => exact .resolved (resolve_held hResult)
  | register name source =>
      obtain ⟨handle, hResult, rfl⟩ := exists_of_map_eq_ok h
      exact .registered (register_held_after hResult)
  | dispatchTarget handle text =>
      obtain ⟨target, hResult, rfl⟩ := exists_of_map_eq_ok h
      obtain ⟨operation, hOperation, hTarget⟩ := dispatchTarget_bound hResult
      exact .target hOperation hTarget

/-- What was given back once stays in its table, whatever other call comes after it. -/
theorem Recorded.perform {request : Request ω} {reply : Reply ω} {s : State ω}
    (h : Recorded s.toMemory request reply) (r : Registry ω) (other : Request ω) :
    Recorded (r.perform other s).state.toMemory request reply := by
  rw [perform_state]
  cases h with
  | absent name => exact .absent name
  | resolved h => exact .resolved (handle_run h r _)
  | registered h => exact .registered (handle_run h r _)
  | target hOperation h => exact .target hOperation (target_run h r _)

variable {request : ι → Request ω}

/-- What was given back once stays in its table through any calls after it. -/
theorem Recorded.replay {called : Request ω} {reply : Reply ω} {s : State ω}
    (h : Recorded s.toMemory called reply) (r : Registry ω) (request : ι → Request ω)
    (met : ι → ω) (order : List ι) :
    Recorded (replay r request met order s).toMemory called reply := by
  induction order generalizing s with
  | nil => exact h
  | cons i order ih =>
      have hWorld : Recorded ({ s with world := met i } : State ω).toMemory called reply := h
      exact ih (hWorld.perform r (request i))

/-- What a call gave back is in the table as soon as the calls up to it are done. -/
theorem recorded_replay {met : ι → ω} {order before after : List ι} {i : ι} {s : State ω}
    {reply : Reply ω} (hSplit : order = before ++ i :: after)
    (hResult : (performed r request met i (replay r request met before s)).result = .ok reply) :
    Recorded (replay r request met order s).toMemory (request i) reply := by
  rw [hSplit, replay_append]
  have hDone := recorded_perform hResult
  exact hDone.replay r request met after

theorem Machine.memory_settled (m : Machine ι ω) : m.settled.toMemory = m.state.toMemory := by
  rw [settled]
  split
  · exact Stage.memory_settled _ _
  · rfl

/-- The tables are those that the calls leave one after the other: what is made and not put in yet
is in no table. -/
theorem Ordered.memory {s : State ω} {m : Machine ι ω} (h : Ordered r request s m) :
    (Registry.replay r request m.met m.order s).toMemory = m.state.toMemory := by
  rw [← m.memory_settled, ← h.ledger]
  rfl

/-- A settled result is what the call comes to in one piece, after the calls before it in the
order. -/
theorem Ordered.performed {s : State ω} {m : Machine ι ω} (h : Ordered r request s m) {i : ι}
    {result : Except Fault (Reply ω)} (hResult : (m.stage i).result? = some result) :
    ∃ before after, m.order = before ++ i :: after ∧
      (Registry.performed r request m.met i (Registry.replay r request m.met before s)).result =
        result := by
  have hMem : i ∈ m.order := (h.mem i).mpr (ne_of_eq_of_ne hResult (Option.some_ne_none result))
  obtain ⟨before, after, hSplit⟩ := List.append_of_mem hMem
  refine ⟨before, after, hSplit, ?_⟩
  exact Option.some.inj ((h.results before i after hSplit).symm.trans hResult)

/-- What a call gives back is in its table from then on, however the calls interleave. -/
theorem Ordered.recorded {s : State ω} {m : Machine ι ω} (h : Ordered r request s m) {i : ι}
    {reply : Reply ω} (hResult : (m.stage i).result? = some (.ok reply)) :
    Recorded m.state.toMemory (request i) reply := by
  obtain ⟨before, after, hSplit, hDone⟩ := h.performed hResult
  rw [← h.memory]
  exact recorded_replay hSplit hDone

theorem Ordered.resolved {s : State ω} {m : Machine ι ω} (h : Ordered r request s m) {i : ι}
    {name : Text} {handle : Handle ω} (hCall : request i = .resolve name)
    (hResult : (m.stage i).result? = some (.ok (.entry (some handle)))) :
    m.state.handles.get? (Text.lower name) = some (some handle) := by
  have hRecorded := h.recorded hResult
  rw [hCall] at hRecorded
  cases hRecorded with
  | resolved hEntry => exact hEntry

theorem Ordered.registered {s : State ω} {m : Machine ι ω} (h : Ordered r request s m) {i : ι}
    {name : Text} {source : Source ω} {handle : Handle ω}
    (hCall : request i = .register name source)
    (hResult : (m.stage i).result? = some (.ok (.registered handle))) :
    m.state.handles.get? (Text.lower name) = some (some handle) := by
  have hRecorded := h.recorded hResult
  rw [hCall] at hRecorded
  cases hRecorded with
  | registered hEntry => exact hEntry

theorem Ordered.bound {s : State ω} {m : Machine ι ω} (h : Ordered r request s m) {i : ι}
    {handle : Handle ω} {text : Text} {target : Target ω}
    (hCall : request i = .dispatchTarget handle text)
    (hResult : (m.stage i).result? = some (.ok (.target target))) :
    ∃ operation, Operation.ofText? text = some operation ∧
      m.state.targets.get? (handle.name, operation) = some target := by
  have hRecorded := h.recorded hResult
  rw [hCall] at hRecorded
  cases hRecorded with
  | target hOperation hSlot => exact ⟨_, hOperation, hSlot⟩

/-- Where a handle is under the name, registering fails. -/
theorem register_occupied {name : Text} {s : State ω} {found : Handle ω}
    (h : s.handles.get? (Text.lower name) = some (some found)) (r : Registry ω) (source : Source ω)
    (handle : Handle ω) :
    (r.perform (.register name source) s).result ≠ .ok (.registered handle) := by
  rw [perform]
  rcases register_cases r name source s with ⟨fault, world, hFail⟩ | ⟨_, _, _, hFree, _⟩
  · rw [hFail]
    intro hResult
    cases hResult
  · exact absurd h (hFree found)

/-- Of two registrations of a name, the later one fails if the first one succeeds. -/
theorem registered_first {met : ι → ω} {before middle : List ι} {i j : ι} {s : State ω}
    {name other : Text} {source rival : Source ω} {handle held : Handle ω}
    (hName : Text.lower name = Text.lower other) (hFirst : request i = .register name source)
    (hLater : request j = .register other rival)
    (hDone : (performed r request met i (replay r request met before s)).result =
      .ok (.registered handle)) :
    (performed r request met j (replay r request met (before ++ i :: middle) s)).result ≠
      .ok (.registered held) := by
  have hRecorded : Recorded (replay r request met (before ++ i :: middle) s).toMemory (request i)
      (.registered handle) := recorded_replay rfl hDone
  rw [hFirst] at hRecorded
  cases hRecorded with
  | registered h =>
      rw [hName] at h
      rw [performed, hLater]
      exact register_occupied
        (s := { replay r request met (before ++ i :: middle) s with world := met j }) h r rival held

/-- At most one registration of a name succeeds. -/
theorem Ordered.registered_once {s : State ω} {m : Machine ι ω} (h : Ordered r request s m)
    {i j : ι} {name other : Text} {source rival : Source ω} {handle held : Handle ω}
    (hName : Text.lower name = Text.lower other) (hCall : request i = .register name source)
    (hRival : request j = .register other rival)
    (hResult : (m.stage i).result? = some (.ok (.registered handle)))
    (hHeld : (m.stage j).result? = some (.ok (.registered held))) : i = j := by
  obtain ⟨before, after, hSplit, hDone⟩ := h.performed hResult
  have hMem : j ∈ before ++ i :: after := by
    rw [← hSplit]
    exact (h.mem j).mpr (ne_of_eq_of_ne hHeld (Option.some_ne_none _))
  rcases List.mem_append.mp hMem with hBefore | hRest
  · obtain ⟨first, middle, rfl⟩ := List.append_of_mem hBefore
    have hShape : m.order = first ++ j :: (middle ++ i :: after) := by
      rw [hSplit, List.append_assoc, List.cons_append]
    have hOther := Option.some.inj ((h.results _ _ _ hShape).symm.trans hHeld)
    exact absurd hDone (registered_first hName.symm hRival hCall hOther)
  · rcases List.mem_cons.mp hRest with hSame | hAfter
    · exact hSame.symm
    · obtain ⟨middle, rest, rfl⟩ := List.append_of_mem hAfter
      have hShape : m.order = (before ++ i :: middle) ++ j :: rest := by
        rw [hSplit, List.append_assoc, List.cons_append]
      have hOther := Option.some.inj ((h.results _ _ _ hShape).symm.trans hHeld)
      exact absurd hOther (registered_first hName hCall hRival hDone)

end CommandMarkup.Registry
