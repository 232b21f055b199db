import CommandMarkup.Proofs.Concurrency.Turn
import Mathlib.Data.List.Nodup

/-! Calls at the same time come to what they come to one after the other. The lock has one holder,
who alone changes the tables, and nothing that a call without the lock relies on ever changes
(`consistent_advance`). So each step of a call either settles nothing, or settles the result of the
call as if it were done in one piece then (`accounts_advance`), and in the order in which the
results are settled, the calls come to the same results and the same tables.

Main statement: `ordered_interleave`. -/
namespace CommandMarkup.Registry

variable {ω ι : Type}

/-- The ledger of what has been accounted for. Only the holder of the lock may have made something
that is not put in yet. -/
def Machine.settled (m : Machine ι ω) : Ledger ω :=
  match m.lock with
  | some i => (m.stage i).settled m.state.ledger
  | none => m.state.ledger

theorem Machine.settled_of_free {m : Machine ι ω} (h : m.lock = none) :
    m.settled = m.state.ledger := by
  rw [settled, h]

theorem Machine.settled_of_holder {m : Machine ι ω} {i : ι} (h : m.lock = some i) :
    m.settled = (m.stage i).settled m.state.ledger := by
  rw [settled, h]

/-- The lock is held by the one call that is at a stage with the lock, and all stages fit. -/
structure Consistent (r : Registry ω) (request : ι → Request ω) (m : Machine ι ω) : Prop where
  holder : ∀ i, (m.stage i).holds = true ↔ m.lock = some i
  fits : ∀ i, (m.stage i).Fits r (request i) (m.met i) m.state.ledger

theorem Stage.memory_settled (stage : Stage ω) (l : Ledger ω) :
    (stage.settled l).toMemory = l.toMemory := by
  cases stage <;> rfl

/-- What a call without the lock has seen still holds when no key is lost. -/
theorem Stage.Fits.mono {r : Registry ω} {request : Request ω} {world : ω} {l l' : Ledger ω}
    {stage : Stage ω} (hHolds : stage.holds = false)
    (hKnown : ∀ key, l.handles.get? key ≠ none → l'.handles.get? key ≠ none)
    (h : stage.Fits r request world l) : stage.Fits r request world l' := by
  cases stage with
  | fetching key => exact ⟨h.1, hKnown key h.2⟩
  | called => exact h
  | waiting task => exact h
  | announcing handle => exact h
  | answered result => exact h
  | lost => exact h
  | _ => cases hHolds

section Move

variable {r : Registry ω} {i : ι} {request : Request ω} {world : ω} {t t' : Turn ι ω}

/-- No step takes anything out of a table, whichever move it is. -/
theorem Turn.Move.keeps (h : Turn.Move r i request world t t') :
    Keeps t.state.toMemory t'.state.toMemory := by
  cases h with
  | apart _ _ _ hLedger _ =>
      have hMemory : t'.state.toMemory = t.state.toMemory := congrArg Ledger.toMemory hLedger
      rw [hMemory]
      exact .refl _
  | taking _ _ _ _ hState _ =>
      rw [hState]
      exact .refl _
  | within _ _ _ hKeeps _ => exact hKeeps
  | leaving _ _ _ hState _ =>
      rw [hState]
      exact .refl _

/-- While another call has the lock, a call changes nothing. -/
theorem Turn.Move.shut (h : Turn.Move r i request world t t') (hBefore : t.stage.holds = false)
    (hLock : t.lock ≠ none) : t'.state.ledger = t.state.ledger := by
  cases h with
  | apart _ _ _ hLedger _ => exact hLedger
  | taking _ _ hFree _ _ _ => exact absurd hFree hLock
  | within hHolds _ _ _ _ => exact absurd (hHolds.symm.trans hBefore) (by decide)
  | leaving hHolds _ _ _ _ => exact absurd (hHolds.symm.trans hBefore) (by decide)

end Move

variable {r : Registry ω} {request : ι → Request ω}

theorem consistent_start (r : Registry ω) (request : ι → Request ω) (s : State ω) :
    Consistent r request (Machine.start s) :=
  ⟨fun _ => ⟨nofun, nofun⟩, fun _ => trivial⟩

variable [DecidableEq ι]

/-- The world that a call has met changes with its own steps, and only before those that may
construct a handler. -/
theorem met_advance_self (r : Registry ω) (request : ι → Request ω) (i : ι) (m : Machine ι ω) :
    (advance r request i m).met i = (m.turn i).meets (m.met i) := by
  cases hConstructs : (m.stage i).constructs <;>
    simp [advance, Turn.meets, Machine.turn, hConstructs]

theorem met_advance_of_ne {i j : ι} (hNe : j ≠ i) (r : Registry ω) (request : ι → Request ω)
    (m : Machine ι ω) : (advance r request i m).met j = m.met j := by
  simp only [advance]
  split
  · exact Function.update_of_ne hNe ..
  · rfl

/-- The world that a call met is not changed once its result is settled. -/
theorem met_advance {m : Machine ι ω} {j : ι} (hResult : (m.stage j).result? ≠ none)
    (r : Registry ω) (request : ι → Request ω) (i : ι) :
    (advance r request i m).met j = m.met j := by
  by_cases hCall : j = i
  · subst hCall
    have hConstructs : (m.stage j).constructs = false := by
      cases hStage : m.stage j with
      | called => exact absurd (congrArg Stage.result? hStage) hResult
      | building key => exact absurd (congrArg Stage.result? hStage) hResult
      | _ => rfl
    rw [met_advance_self, Turn.meets, Machine.turn, hConstructs, if_neg Bool.false_ne_true]
  · exact met_advance_of_ne hCall r request m

/-- The call that steps makes one of the moves. -/
theorem Consistent.turn {m : Machine ι ω} (h : Consistent r request m) (i : ι) :
    Turn.Sound r i (request i) ((advance r request i m).met i) (m.turn i)
      ((advance r request i m).turn i) := by
  rw [met_advance_self, turn_advance]
  exact Turn.sound_next (h.fits i)

/-- After a step the lock is still held by the one call that is at a stage with the lock. The other
calls are where they were; the move of the call itself says what becomes of the lock. -/
theorem holder_advance {m : Machine ι ω} (h : Consistent r request m) (i j : ι) :
    ((advance r request i m).stage j).holds = true ↔ (advance r request i m).lock = some j := by
  have hTurn : (m.turn i).stage.holds = true ↔ (m.turn i).lock = some i := h.holder i
  by_cases hCall : j = i
  · subst hCall
    have hGoal : ((advance r request j m).turn j).stage.holds = true ↔
        ((advance r request j m).turn j).lock = some j := by
      cases (h.turn j).move with
      | apart hBefore hAfter hLock _ _ =>
          rw [hAfter, hLock, ← hBefore]
          exact hTurn
      | taking _ hAfter _ hLock _ _ => exact ⟨fun _ => hLock, fun _ => hAfter⟩
      | within hBefore hAfter hLock _ _ =>
          exact ⟨fun _ => hLock.trans (hTurn.mp hBefore), fun _ => hAfter⟩
      | leaving _ hAfter hLock _ _ =>
          rw [hAfter, hLock]
          exact ⟨nofun, nofun⟩
    exact hGoal
  · rw [stage_advance_of_ne hCall, h.holder j]
    have hGoal : (m.turn i).lock = some j ↔ ((advance r request i m).turn i).lock = some j := by
      cases (h.turn i).move with
      | apart _ _ hLock _ _ => rw [hLock]
      | taking _ _ hFree hLock _ _ =>
          rw [hFree, hLock]
          exact ⟨nofun, fun hSame => absurd (Option.some.inj hSame).symm hCall⟩
      | within _ _ hLock _ _ => rw [hLock]
      | leaving hBefore _ hLock _ _ =>
          rw [hTurn.mp hBefore, hLock]
          exact ⟨fun hSame => absurd (Option.some.inj hSame).symm hCall, nofun⟩
    exact hGoal

/-- One step keeps the machine consistent. What the other calls have seen still holds, because the
step takes no key away. -/
theorem consistent_advance {m : Machine ι ω} (h : Consistent r request m) (i : ι) :
    Consistent r request (advance r request i m) := by
  refine ⟨holder_advance h i, fun j => ?_⟩
  by_cases hCall : j = i
  · subst hCall
    exact (h.turn j).fits
  · rw [met_advance_of_ne hCall, stage_advance_of_ne hCall]
    have hMove := (h.turn i).move
    cases hHolds : (m.stage j).holds with
    | false => exact (h.fits j).mono hHolds hMove.keeps.known
    | true =>
        have hLock : m.lock = some j := (h.holder j).mp hHolds
        have hOther : (m.stage i).holds = false := by
          rw [Bool.eq_false_iff]
          intro hBoth
          rw [h.holder i, hLock] at hBoth
          exact hCall (Option.some.inj hBoth)
        have hSame : (advance r request i m).state.ledger = m.state.ledger :=
          hMove.shut hOther (ne_of_eq_of_ne hLock (Option.some_ne_none j))
        rw [hSame]
        exact h.fits j

theorem consistent_interleave {m : Machine ι ω} (h : Consistent r request m) (schedule : List ι) :
    Consistent r request (interleave r request schedule m) := by
  induction schedule generalizing m with
  | nil => exact h
  | cons i schedule ih => exact ih (consistent_advance h i)

/-- A step settles nothing, or it settles the result of its call. -/
theorem decides_advance {m : Machine ι ω} (h : Consistent r request m) (i : ι) :
    Stage.Decides r (request i) ((advance r request i m).met i) (m.stage i)
      ((advance r request i m).stage i) m.settled (advance r request i m).settled := by
  have hTurn : (m.turn i).stage.holds = true ↔ m.lock = some i := h.holder i
  cases (h.turn i).move with
  | apart hBefore _ hLock hLedger hDecides =>
      have hOpen : (advance r request i m).lock = m.lock := hLock
      have hSame : (advance r request i m).state.ledger = m.state.ledger := hLedger
      cases hHolder : m.lock with
      | none =>
          rw [Machine.settled_of_free hHolder, Machine.settled_of_free (hOpen.trans hHolder), hSame]
          exact hDecides _ rfl
      | some j =>
          have hOther : j ≠ i := by
            rintro rfl
            rw [hTurn.mpr hHolder] at hBefore
            cases hBefore
          rw [Machine.settled_of_holder hHolder, Machine.settled_of_holder (hOpen.trans hHolder),
            hSame, stage_advance_of_ne hOther]
          exact hDecides _ (Stage.memory_settled _ _)
  | taking _ _ hFree hLock _ hDecides =>
      rw [Machine.settled_of_free hFree, Machine.settled_of_holder hLock]
      exact hDecides
  | within hBefore _ hLock _ hDecides =>
      have hHolder := hTurn.mp hBefore
      rw [Machine.settled_of_holder hHolder, Machine.settled_of_holder (hLock.trans hHolder)]
      exact hDecides
  | leaving hBefore _ hLock _ hDecides =>
      rw [Machine.settled_of_holder (hTurn.mp hBefore), Machine.settled_of_free hLock]
      exact hDecides

/-- Of a call in one piece that meets the world that it met. -/
def performed (r : Registry ω) (request : ι → Request ω) (met : ι → ω) (i : ι) (s : State ω) :
    Outcome (State ω) (Reply ω) := r.perform (request i) { s with world := met i }

/-- The state after calls one after the other. -/
def replay (r : Registry ω) (request : ι → Request ω) (met : ι → ω) (order : List ι)
    (s : State ω) : State ω :=
  order.foldl (fun s i => (performed r request met i s).state) s

omit [DecidableEq ι] in
theorem replay_append (r : Registry ω) (request : ι → Request ω) (met : ι → ω)
    (first rest : List ι) (s : State ω) : replay r request met (first ++ rest) s =
      replay r request met rest (replay r request met first s) := List.foldl_append

omit [DecidableEq ι] in
/-- Only the worlds that were met by the calls in the order matter. -/
theorem replay_congr {met met' : ι → ω} {order : List ι} (h : ∀ i ∈ order, met' i = met i)
    (r : Registry ω) (request : ι → Request ω) (s : State ω) :
    replay r request met' order s = replay r request met order s := by
  refine List.foldl_ext _ _ s fun state i hMem => ?_
  rw [performed, performed, h i hMem]

/-- The calls whose results are settled have come to what they come to one after the other. -/
structure Ordered (r : Registry ω) (request : ι → Request ω) (s : State ω) (m : Machine ι ω) :
    Prop where
  nodup : m.order.Nodup
  mem : ∀ i, i ∈ m.order ↔ (m.stage i).result? ≠ none
  results : ∀ before i after, m.order = before ++ i :: after → (m.stage i).result? =
    some (performed r request m.met i (replay r request m.met before s)).result
  ledger : (replay r request m.met m.order s).ledger = m.settled

omit [DecidableEq ι] in
theorem ordered_start (r : Registry ω) (request : ι → Request ω) (s : State ω) :
    Ordered r request s (Machine.start s) where
  nodup := List.nodup_nil
  mem := fun _ => ⟨nofun, fun h => absurd rfl h⟩
  results := by
    intro before i after h
    have hEmpty : [] = before ++ i :: after := h
    simp at hEmpty
  ledger := rfl

/-- What the step of a call does to the results that are settled. -/
inductive Accounts (r : Registry ω) (request : ι → Request ω) (i : ι) (m m' : Machine ι ω) :
    Prop where
  | quiet (hOrder : m'.order = m.order) (hResult : ∀ j, (m'.stage j).result? = (m.stage j).result?)
      (hSettled : m'.settled = m.settled)
  | settling (result : Except Fault (Reply ω)) (hNone : (m.stage i).result? = none)
      (hOrder : m'.order = m.order ++ [i]) (hResult : (m'.stage i).result? = some result)
      (hPerforms : Performs r (request i) (m'.met i) m.settled result m'.settled)

/-- A step accounts for what it settles: either nothing, or the result of its own call at the end of
the order. -/
theorem accounts_advance {m : Machine ι ω} (h : Consistent r request m) (i : ι) :
    Accounts r request i m (advance r request i m) := by
  have hOrder : (advance r request i m).order =
      if (m.stage i).result?.isNone ∧ ((advance r request i m).stage i).result?.isSome
        then m.order ++ [i] else m.order := by
    simp only [advance, Function.update_self]
  rcases decides_advance h i with ⟨hResult, hSettled⟩ | ⟨hNone, result, hResult, hPerforms⟩
  · refine .quiet ?_ (fun j => ?_) hSettled
    · rw [hOrder, hResult, if_neg]
      cases (m.stage i).result? <;> simp
    · by_cases hCall : j = i
      · rw [hCall, hResult]
      · rw [stage_advance_of_ne hCall]
  · refine .settling result hNone ?_ hResult hPerforms
    rw [hOrder, hNone, hResult, if_pos ⟨rfl, rfl⟩]

omit [DecidableEq ι] in
/-- A list with one more at its end splits at the new one, or where it split before. -/
theorem split_append_singleton {order before after : List ι} {i j : ι}
    (h : order ++ [i] = before ++ j :: after) :
    (order = before ∧ i = j) ∨ ∃ middle, order = before ++ j :: middle := by
  rcases List.eq_nil_or_concat after with rfl | ⟨middle, last, rfl⟩
  · obtain ⟨hInit, hLast⟩ := List.append_inj' h rfl
    exact .inl ⟨hInit, List.head_eq_of_cons_eq hLast⟩
  · have hShape : order ++ [i] = (before ++ j :: middle) ++ [last] := by
      rw [h, List.concat_eq_append, List.append_assoc, List.cons_append]
    exact .inr ⟨middle, (List.append_inj' hShape rfl).1⟩

namespace Ordered

variable {s : State ω} {m m' : Machine ι ω}

omit [DecidableEq ι] in
/-- Where nothing is settled, the order stands, whatever worlds other calls meet. -/
theorem quiet (h : Ordered r request s m) (hOrder : m'.order = m.order)
    (hResult : ∀ j, (m'.stage j).result? = (m.stage j).result?) (hSettled : m'.settled = m.settled)
    (hMet : ∀ j ∈ m.order, m'.met j = m.met j) : Ordered r request s m' := by
  have hReplay : ∀ before after, m.order = before ++ after →
      replay r request m'.met before s = replay r request m.met before s := by
    intro before after hSplit
    refine replay_congr (fun j hMem => hMet j ?_) r request s
    rw [hSplit]
    exact List.mem_append_left after hMem
  refine ⟨hOrder ▸ h.nodup, fun j => ?_, fun before j after hSplit => ?_, ?_⟩
  · rw [hOrder, hResult j]
    exact h.mem j
  · rw [hOrder] at hSplit
    have hMem : j ∈ m.order := by
      rw [hSplit]
      exact List.mem_append_right before List.mem_cons_self
    rw [hResult j, h.results before j after hSplit, hReplay before _ hSplit, performed, performed,
      hMet j hMem]
  · rw [hOrder, hReplay m.order [] (List.append_nil _).symm, hSettled]
    exact h.ledger

omit [DecidableEq ι] in
/-- A call whose result is settled as if it were done in one piece comes last in the order. -/
theorem settling (h : Ordered r request s m) {i : ι} {result : Except Fault (Reply ω)}
    (hNone : (m.stage i).result? = none) (hOrder : m'.order = m.order ++ [i])
    (hOthers : ∀ j, j ≠ i → m'.stage j = m.stage j) (hMet : m'.met = m.met)
    (hResult : (m'.stage i).result? = some result)
    (hPerforms : Performs r (request i) (m'.met i) m.settled result m'.settled) :
    Ordered r request s m' := by
  have hNew : i ∉ m.order := fun hMem => (h.mem i).mp hMem hNone
  rw [hMet] at hPerforms
  obtain ⟨hSame, hAfter⟩ := hPerforms
    { replay r request m.met m.order s with world := m.met i } h.ledger rfl
  refine ⟨?_, fun j => ?_, fun before j after hSplit => ?_, ?_⟩
  · rw [hOrder, ← List.concat_eq_append]
    exact h.nodup.concat hNew
  · rw [hOrder, List.mem_append, List.mem_singleton, h.mem j]
    by_cases hCall : j = i
    · rw [hCall, hResult]
      exact ⟨fun _ => Option.some_ne_none result, fun _ => .inr rfl⟩
    · rw [hOthers j hCall]
      exact ⟨fun hMem => hMem.resolve_right hCall, .inl⟩
  · rw [hOrder] at hSplit
    rw [hMet]
    rcases split_append_singleton hSplit with ⟨rfl, rfl⟩ | ⟨middle, hInit⟩
    · rw [hResult, performed, hSame]
    · have hCall : j ≠ i := by
        rintro rfl
        rw [hInit] at hNew
        exact hNew (List.mem_append_right before List.mem_cons_self)
      rw [hOthers j hCall]
      exact h.results before j middle hInit
  · rw [hOrder, hMet, replay_append, ← hAfter]
    rfl

end Ordered

/-- One step keeps the calls in order. It falls under one of the two cases above. -/
theorem ordered_advance {s : State ω} {m : Machine ι ω} (hConsistent : Consistent r request m)
    (h : Ordered r request s m) (i : ι) : Ordered r request s (advance r request i m) := by
  have hMet : ∀ j ∈ m.order, (advance r request i m).met j = m.met j :=
    fun j hMem => met_advance ((h.mem j).mp hMem) r request i
  cases accounts_advance hConsistent i with
  | quiet hOrder hResult hSettled => exact h.quiet hOrder hResult hSettled hMet
  | settling result hNone hOrder hResult hPerforms =>
      have hBefore : Ordered r request s { m with met := (advance r request i m).met } :=
        h.quiet rfl (fun _ => rfl) rfl hMet
      exact hBefore.settling hNone hOrder (fun j hCall => stage_advance_of_ne hCall r request m) rfl
        hResult hPerforms

/-- Along every schedule, calls that are in order stay so. -/
theorem ordered_interleave {s : State ω} {m : Machine ι ω} (hConsistent : Consistent r request m)
    (h : Ordered r request s m) (schedule : List ι) :
    Ordered r request s (interleave r request schedule m) := by
  induction schedule generalizing m with
  | nil => exact h
  | cons i schedule ih =>
      exact ih (consistent_advance hConsistent i) (ordered_advance hConsistent h i)

/-- Results are settled one after the other. -/
theorem order_interleave (r : Registry ω) (request : ι → Request ω) (schedule : List ι)
    (m : Machine ι ω) : m.order <+: (interleave r request schedule m).order := by
  induction schedule generalizing m with
  | nil => exact List.prefix_rfl
  | cons i schedule ih =>
      have hFirst : m.order <+: (advance r request i m).order := by
        simp only [advance]
        split
        · exact List.prefix_append _ _
        · exact List.prefix_rfl
      exact hFirst.trans (ih _)

/-- A result that is settled stays. -/
theorem result_interleave {m : Machine ι ω} (h : Consistent r request m) {i : ι}
    {result : Except Fault (Reply ω)} (hResult : (m.stage i).result? = some result)
    (schedule : List ι) : ((interleave r request schedule m).stage i).result? = some result := by
  induction schedule generalizing m with
  | nil => exact hResult
  | cons j schedule ih =>
      refine ih (consistent_advance h j) ?_
      cases accounts_advance h j with
      | quiet _ hSame _ => rw [hSame, hResult]
      | settling _ hNone _ _ _ =>
          have hCall : i ≠ j := by
            rintro rfl
            rw [hNone] at hResult
            cases hResult
          rw [stage_advance_of_ne hCall, hResult]

end CommandMarkup.Registry
