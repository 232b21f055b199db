import CommandMarkup.Proofs.Concurrency.Once
import CommandMarkup.Proofs.Concurrency.Progress
import CommandMarkup.Proofs.Concurrency.Sequential
import CommandMarkup.Proofs.Registry.Bundled

/-! What is certain about calls of one registry at the same time, however their steps come in
between each other. All calls see the steps in one order, and a handler that is constructed calls
no registry. That a call can still come to its answer says that there are steps to it, not that
whoever chooses the steps ever takes them.

Main statement: `race_linearizable`. -/
namespace CommandMarkup.Registry

variable {ω ι : Type} [DecidableEq ι]

/-- Where the calls are after those steps. -/
def race (r : Registry ω) (request : ι → Request ω) (s : State ω) (schedule : List ι) :
    Machine ι ω := interleave r request schedule (.start s)

/-- After any steps, the calls whose results are settled have come to what they come to one after
the other, in an order that keeps to the time at which they were made, and no call is stuck. -/
structure Linearizable (r : Registry ω) (request : ι → Request ω) (s : State ω)
    (schedule : List ι) : Prop where
  ordered : Ordered r request s (race r request s schedule)
  met : ∀ i, ∃ first rest, schedule = first ++ rest ∧
    (race r request s schedule).met i = (race r request s first).state.world
  memory : let m := race r request s schedule
    (replay r request m.met m.order s).toMemory = m.state.toMemory
  run : r.Steady → (∀ i, (request i).Steady r.settings) →
    let m := race r request s schedule
    (Registry.run r (actions request m.order) s).toMemory = m.state.toMemory ∧
    ∀ before i after, m.order = before ++ i :: after → (m.stage i).result? =
      some (r.perform (request i) (Registry.run r (actions request before) s)).result
  timely : ∀ first rest, schedule = first ++ rest → ∀ i j,
    ((race r request s first).stage i).result? ≠ none →
    ((race r request s first).stage j).result? = none →
    j ∈ (race r request s schedule).order → [i, j].Sublist (race r request s schedule).order
  stays : ∀ more i result, ((race r request s schedule).stage i).result? = some result →
    ((race r request s (schedule ++ more)).stage i).result? = some result
  found : ∀ i, (race r request s schedule).stage i ≠ .lost
  answers : ∀ i, ∃ more result,
    (race r request s (schedule ++ more)).stage i = .answered result
  alone : let m := race r request s schedule
    m.lock = none → ∀ i, m.stage i = .called →
      (race r request s (schedule ++ List.replicate 7 i)).turn i =
        ⟨(r.perform (request i) m.state).state, none,
          .answered (r.perform (request i) m.state).result⟩

/-- What calls at the same time never make or give back twice. -/
structure Unique (r : Registry ω) (request : ι → Request ω) (s : State ω) (m : Machine ι ω) :
    Prop where
  resolved : ∀ i j name other handle held, request i = .resolve name →
    request j = .resolve other → Text.lower name = Text.lower other →
    (m.stage i).result? = some (.ok (.entry (some handle))) →
    (m.stage j).result? = some (.ok (.entry (some held))) → handle = held
  registered : ∀ i j name other source rival handle held, request i = .register name source →
    request j = .register other rival → Text.lower name = Text.lower other →
    (m.stage i).result? = some (.ok (.registered handle)) →
    (m.stage j).result? = some (.ok (.registered held)) → i = j
  kept : ∀ i name source handle, request i = .register name source →
    (m.stage i).result? = some (.ok (.registered handle)) →
    m.state.handles.get? (Text.lower name) = some (some handle)
  target : ∀ i j handle other text target bound, request i = .dispatchTarget handle text →
    request j = .dispatchTarget other text → handle.name = other.name →
    (m.stage i).result? = some (.ok (.target target)) →
    (m.stage j).result? = some (.ok (.target bound)) → target = bound
  loaded : r.NeverRaises → ∀ name, m.state.log.countP (Event.loads name) ≤
    s.log.countP (Event.loads name) + if (s.handles.get? name).isNone then 1 else 0
  bound : ∀ name operation, m.state.log.countP (Event.binds name operation) ≤
    s.log.countP (Event.binds name operation) +
      if (s.targets.get? (name, operation)).isNone then 1 else 0

variable {r : Registry ω} {request : ι → Request ω}

theorem consistent_race (r : Registry ω) (request : ι → Request ω) (s : State ω)
    (schedule : List ι) : Consistent r request (race r request s schedule) :=
  consistent_interleave (consistent_start r request s) schedule

theorem ordered_race (r : Registry ω) (request : ι → Request ω) (s : State ω)
    (schedule : List ι) : Ordered r request s (race r request s schedule) :=
  ordered_interleave (consistent_start r request s) (ordered_start r request s) schedule

theorem race_append (r : Registry ω) (request : ι → Request ω) (s : State ω)
    (schedule more : List ι) : race r request s (schedule ++ more) =
      interleave r request more (race r request s schedule) := interleave_append ..

/-- A call has met a world that there was. -/
theorem met_race (r : Registry ω) (request : ι → Request ω) (s : State ω) (schedule : List ι)
    (i : ι) : ∃ first rest, schedule = first ++ rest ∧
      (race r request s schedule).met i = (race r request s first).state.world := by
  induction schedule using List.reverseRecOn with
  | nil => exact ⟨[], [], rfl, rfl⟩
  | append_singleton schedule j ih =>
      obtain ⟨first, rest, hSplit, hMet⟩ := ih
      have hEarlier : schedule ++ [j] = first ++ (rest ++ [j]) := by rw [hSplit, List.append_assoc]
      have hLast : race r request s (schedule ++ [j]) =
          advance r request j (race r request s schedule) := race_append ..
      rw [hLast]
      by_cases hCall : i = j
      · subst hCall
        rw [met_advance_self, Turn.meets]
        split
        · exact ⟨schedule, [i], rfl, rfl⟩
        · exact ⟨first, rest ++ [i], hEarlier, hMet⟩
      · rw [met_advance_of_ne hCall]
        exact ⟨first, rest ++ [j], hEarlier, hMet⟩

/-- A call that has its result before another one settles its own comes before it in the order. -/
theorem order_timely {s : State ω} {first rest : List ι} {i j : ι}
    (hSettled : ((race r request s first).stage i).result? ≠ none)
    (hOpen : ((race r request s first).stage j).result? = none)
    (hMem : j ∈ (race r request s (first ++ rest)).order) :
    [i, j].Sublist (race r request s (first ++ rest)).order := by
  have hFirst := ordered_race r request s first
  obtain ⟨later, hOrder⟩ := order_interleave r request rest (race r request s first)
  rw [race_append, ← hOrder] at hMem ⊢
  have hLater : j ∈ later := by
    rcases List.mem_append.mp hMem with hBefore | hLater
    · exact absurd hOpen ((hFirst.mem j).mp hBefore)
    · exact hLater
  have hBefore : i ∈ (race r request s first).order := (hFirst.mem i).mpr hSettled
  exact (List.singleton_sublist.mpr hBefore).append (List.singleton_sublist.mpr hLater)

/-- The fields are the invariants of a run, read at its end, and the progress that any call can
still make. -/
theorem linearizable_race (r : Registry ω) (request : ι → Request ω) (s : State ω)
    (schedule : List ι) : Linearizable r request s schedule where
  ordered := ordered_race r request s schedule
  met := met_race r request s schedule
  memory := (ordered_race r request s schedule).memory
  run := fun hSteady hRequests => (ordered_race r request s schedule).run hSteady hRequests
  timely := by
    rintro first rest rfl i j hSettled hOpen hMem
    exact order_timely hSettled hOpen hMem
  stays := by
    intro more i result hResult
    rw [race_append]
    exact result_interleave (consistent_race r request s schedule) hResult more
  found := by
    intro i hLost
    have hFits := (consistent_race r request s schedule).fits i
    rw [hLost] at hFits
    exact hFits
  answers := by
    intro i
    simp only [race_append]
    exact exists_answered (consistent_race r request s schedule) i
  alone := by
    intro m hLock i hStage
    rw [race_append]
    exact interleave_alone r request i hLock hStage

/-- What is given back is in the tables, and made once; so two calls that got something for the same
key got the same thing. -/
theorem unique_race (r : Registry ω) (request : ι → Request ω) (s : State ω)
    (schedule : List ι) : Unique r request s (race r request s schedule) where
  resolved := by
    intro i j name other handle held hCall hOther hName hResult hHeld
    have hFirst := (ordered_race r request s schedule).resolved hCall hResult
    have hSecond := (ordered_race r request s schedule).resolved hOther hHeld
    rw [hName, hSecond] at hFirst
    exact (Option.some.inj (Option.some.inj hFirst)).symm
  registered := by
    intro i j name other source rival handle held hCall hRival hName hResult hHeld
    exact (ordered_race r request s schedule).registered_once hName hCall hRival hResult hHeld
  kept := by
    intro i name source handle hCall hResult
    exact (ordered_race r request s schedule).registered hCall hResult
  target := by
    intro i j handle other text target bound hCall hOther hName hResult hBound
    obtain ⟨operation, hOperation, hFirst⟩ :=
      (ordered_race r request s schedule).bound hCall hResult
    obtain ⟨again, hAgain, hSecond⟩ := (ordered_race r request s schedule).bound hOther hBound
    rw [hOperation] at hAgain
    cases hAgain
    rw [hName, hSecond] at hFirst
    exact (Option.some.inj hFirst).symm
  loaded := by
    intro hNever name
    obtain ⟨hSame, hOnce⟩ := loaded_once hNever name schedule (consistent_start r request s)
    cases hEntry : s.handles.get? name with
    | none => exact hOnce
    | some entry =>
        exact (hSame (.inl (ne_of_eq_of_ne hEntry (Option.some_ne_none entry)))).le
  bound := by
    intro name operation
    obtain ⟨hSame, hOnce⟩ := bound_once name operation schedule (consistent_start r request s)
    cases hSlot : s.targets.get? (name, operation) with
    | none => exact hOnce
    | some target => exact (hSame (ne_of_eq_of_ne hSlot (Option.some_ne_none target))).le

/-- Calls at the same time come to what they come to in some order, and make nothing twice. -/
theorem race_linearizable (r : Registry ω) (request : ι → Request ω) (s : State ω)
    (schedule : List ι) : Linearizable r request s schedule ∧
      Unique r request s (race r request s schedule) :=
  ⟨linearizable_race r request s schedule, unique_race r request s schedule⟩

/-- The classes of the bundled commands construct the same handlers in all worlds. -/
theorem provides_bundled {clock : ω → Calendar.Moment} {settings : Settings}
    {handlerClass : HandlerClass ω}
    (h : Provides ⟨settings, .bundled clock⟩ handlerClass) :
    ∃ kind : Handler.Bundled, ∀ settings world, handlerClass.construct settings world =
      ⟨.ok (kind.handler clock settings), world⟩ := by
  obtain ⟨package, found, name, commandModule, hImport, hModule, hClass⟩ := h
  dsimp only [Environment.bundled] at hImport
  split at hImport
  case isFalse => cases hImport
  case isTrue =>
    cases hImport
    obtain ⟨_, bundledClass, kind, hLoaded, hBundledClass, hConstruct⟩ := module?_bundled hModule
    cases hLoaded
    rw [hBundledClass] at hClass
    cases hClass
    exact ⟨kind, hConstruct⟩

theorem neverRaises_bundled (clock : ω → Calendar.Moment) (settings : Settings) :
    NeverRaises ⟨settings, .bundled clock⟩ := by
  intro handlerClass hProvides world fault
  obtain ⟨kind, hConstruct⟩ := provides_bundled hProvides
  rw [hConstruct]
  nofun

/-- The bundled commands do without the world while they are constructed, so a registry that has no
others is steady. -/
theorem steady_bundled (clock : ω → Calendar.Moment) (settings : Settings) :
    Steady ⟨settings, .bundled clock⟩ := by
  intro handlerClass hProvides world other
  obtain ⟨kind, hConstruct⟩ := provides_bundled hProvides
  rw [hConstruct, hConstruct]

/-- The handle that a name was resolved to. -/
def Stage.resolved? : Stage ω → Option (Handle ω)
  | answered (.ok (.entry entry)) => entry
  | _ => none

theorem Stage.result?_of_resolved? {stage : Stage ω} {handle : Handle ω}
    (h : stage.resolved? = some handle) : stage.result? = some (.ok (.entry (some handle))) := by
  cases stage with
  | answered result =>
      cases result with
      | error fault => cases h
      | ok reply =>
          cases reply with
          | entry entry =>
              cases h
              rfl
          | _ => cases h
  | _ => cases h

/-- Three calls for one name all find that it is not there before any of them gets the lock. The
last one gets it, and builds the handle, while the first one waits. -/
theorem race_linearizable_bundled :
    let clock : Unit → Calendar.Moment := fun _ => ⟨⟨2024, 5, 1, by decide⟩, .midnight, none⟩
    let r : Registry Unit := ⟨{}, .bundled clock⟩
    let request : Fin 3 → Request Unit := fun
      | 0 => .resolve "Dt".toList
      | 1 => .register "dT".toList (.ofHandler (.plain "P".toList))
      | 2 => .resolve "DT".toList
    let m := race r request (.initial ()) [0, 1, 2, 2, 2, 2, 0, 2, 2, 0, 0, 0, 0, 1, 1, 1]
    m.order = [2, 0, 1] ∧
      (∃ handle, (m.stage 0).resolved? = some handle ∧ (m.stage 2).resolved? = some handle) ∧
      (m.stage 1).result?.map Except.isOk = some false ∧
      m.state.log.countP (Event.loads "dt".toList) ≤ 1 ∧
      (Registry.run r (actions request [2, 0, 1]) (.initial ())).toMemory = m.state.toMemory := by
  intro clock r request m
  have hBoth := race_linearizable r request (.initial ())
    [0, 1, 2, 2, 2, 2, 0, 2, 2, 0, 0, 0, 0, 1, 1, 1]
  have hUnique : Unique r request (.initial ()) m := hBoth.2
  have hRequests : ∀ i, (request i).Steady r.settings
    | 0 => trivial
    | 1 => trivial
    | 2 => trivial
  have hOrder : m.order = [2, 0, 1] := by decide +kernel
  obtain ⟨handle, hFirst⟩ := Option.isSome_iff_exists.mp
    (by decide +kernel : (m.stage 0).resolved?.isSome = true)
  obtain ⟨held, hLast⟩ := Option.isSome_iff_exists.mp
    (by decide +kernel : (m.stage 2).resolved?.isSome = true)
  have hSame : handle = held := hUnique.resolved 0 2 _ _ handle held rfl rfl (by decide)
    (Stage.result?_of_resolved? hFirst) (Stage.result?_of_resolved? hLast)
  refine ⟨hOrder, ⟨handle, hFirst, hSame ▸ hLast⟩, by decide +kernel, ?_, ?_⟩
  · have hLoaded := hUnique.loaded (neverRaises_bundled clock {}) "dt".toList
    exact Nat.le_trans hLoaded (by decide)
  · have hRun : (Registry.run r (actions request m.order) (.initial ())).toMemory =
        m.state.toMemory := (hBoth.1.run (steady_bundled clock _) hRequests).1
    rw [hOrder] at hRun
    exact hRun

end CommandMarkup.Registry
