import CommandMarkup.Proofs.Concurrency.Linear

/-! No call is stuck for good. A call that has the lock, or meets it free, comes nearer to its
answer with each step (`rank_next`), and gives the lock back in the end. So whichever call has the
lock can be let finish, and then any other.

Main statement: `exists_answered`. -/
namespace CommandMarkup.Registry

variable {ω ι : Type}

/-- A bound on the steps to the answer of a call that is not kept waiting. -/
def Stage.rank : Stage ω → Nat
  | called => 7
  | waiting _ => 6
  | entered _ => 5
  | building _ => 4
  | creating _ _ => 4
  | binding _ _ => 4
  | refetching _ => 3
  | writing _ => 3
  | leaving _ => 2
  | fetching _ => 1
  | announcing _ => 1
  | answered _ => 0
  | lost => 0

/-- Nothing keeps the call waiting: it has the lock, or nobody has. -/
def Turn.Open (t : Turn ι ω) : Prop := t.stage.holds = true ∨ t.lock = none

theorem rank_begin (r : Registry ω) (request : Request ω) (s : State ω) :
    (request.begin r s).2.rank < 7 := by
  cases request with
  | resolve name =>
      rw [Request.begin]
      split <;> simp [Stage.rank]
  | dispatchTarget handle text =>
      rw [Request.begin]
      split <;> simp [Stage.rank]
  | register name source =>
      rw [Request.begin]
      split
      · split <;> simp [Stage.rank]
      · simp [Stage.rank]

theorem rank_look (task : Task ω) (s : State ω) : (task.look s).rank < 5 := by
  cases task with
  | find key =>
      rw [Task.look]
      split <;> simp [Stage.rank]
  | enter key handler =>
      rw [Task.look]
      split <;> simp [Stage.rank]
  | bind handle text =>
      rw [Task.look]
      split
      · simp [Stage.rank]
      · split <;> simp [Stage.rank]

/-- Every step of a call that nothing keeps waiting brings it nearer to its answer, so it takes no
more steps than its rank. -/
theorem rank_next (r : Registry ω) (i : ι) (request : Request ω) {t : Turn ι ω} (hOpen : t.Open)
    (hRank : t.stage.rank ≠ 0) : (t.next r i request).stage.rank < t.stage.rank := by
  obtain ⟨s, lock, stage⟩ := t
  cases stage with
  | called => exact rank_begin r request s
  | entered task => exact rank_look task s
  | waiting task =>
      rcases hOpen with hHolds | hFree
      · cases hHolds
      · cases hFree
        simp [Turn.next, Stage.rank]
  | fetching key =>
      rw [Turn.next]
      split <;> simp [Stage.rank]
  | refetching key =>
      rw [Turn.next]
      split <;> simp [Stage.rank]
  | building key =>
      rw [Turn.next]
      split <;> simp [Stage.rank]
  | creating key handler => simp [Turn.next, Stage.rank]
  | binding handle operation => simp [Turn.next, Stage.rank]
  | writing write => simp [Turn.next, Stage.rank]
  | leaving result =>
      cases result with
      | error fault => simp [Turn.next, Stage.rank]
      | ok reply => cases reply <;> simp [Turn.next, Stage.rank]
  | announcing handle => simp [Turn.next, Stage.rank]
  | answered result => exact absurd rfl hRank
  | lost => exact absurd rfl hRank

/-- A call that nothing keeps waiting does not get in its own way. -/
theorem open_next {r : Registry ω} {i : ι} {request : Request ω} {world : ω} {t t' : Turn ι ω}
    (hMove : Turn.Move r i request world t t') (hOpen : t.Open) : t'.Open := by
  cases hMove with
  | apart hBefore _ hLock _ _ =>
      rcases hOpen with hHolds | hFree
      · exact absurd (hHolds.symm.trans hBefore) (by decide)
      · exact .inr (hLock.trans hFree)
  | taking _ hAfter _ _ _ _ => exact .inl hAfter
  | within _ hAfter _ _ _ => exact .inl hAfter
  | leaving _ _ hLock _ _ => exact .inr hLock

/-- Only a call with an answer has no steps left. One that lost what it had seen would have none
either, but that is no stage a call can come to. -/
theorem Stage.answered_of_rank {r : Registry ω} {request : Request ω} {world : ω} {l : Ledger ω}
    {stage : Stage ω} (hFits : stage.Fits r request world l) (hRank : stage.rank = 0) :
    ∃ result, stage = .answered result := by
  cases stage with
  | answered result => exact ⟨result, rfl⟩
  | lost => exact hFits.elim
  | _ => cases hRank

variable [DecidableEq ι] {r : Registry ω} {request : ι → Request ω}

/-- A call that nothing keeps waiting comes to its answer by its own steps, and leaves the lock
free. -/
theorem exists_finished (rank : Nat) {m : Machine ι ω} (h : Consistent r request m) {i : ι}
    (hOpen : (m.turn i).Open) (hRank : (m.stage i).rank ≤ rank) :
    ∃ steps, (∃ result, (interleave r request (List.replicate steps i) m).stage i =
        .answered result) ∧
      (interleave r request (List.replicate steps i) m).lock = none := by
  induction rank generalizing m with
  | zero =>
      obtain ⟨result, hStage⟩ := (m.stage i).answered_of_rank (h.fits i) (Nat.le_zero.mp hRank)
      refine ⟨0, ⟨result, hStage⟩, ?_⟩
      rcases hOpen with hHolds | hFree
      · have hHolds : (m.stage i).holds = true := hHolds
        rw [hStage] at hHolds
        cases hHolds
      · exact hFree
  | succ rank ih =>
      by_cases hDone : (m.stage i).rank = 0
      · exact ih h hOpen (hDone ▸ Nat.zero_le rank)
      · have hLess := rank_next r i (request i) hOpen hDone
        rw [← turn_advance] at hLess
        have hOpen' := open_next (h.turn i).move hOpen
        have hRank' : ((advance r request i m).stage i).rank ≤ rank :=
          Nat.le_of_lt_succ (Nat.lt_of_lt_of_le hLess hRank)
        obtain ⟨steps, hAnswered, hFree⟩ := ih (consistent_advance h i) hOpen' hRank'
        exact ⟨steps + 1, hAnswered, hFree⟩

/-- The call with the lock can finish, and then any call can. -/
theorem exists_answered {m : Machine ι ω} (h : Consistent r request m) (i : ι) :
    ∃ more result, (interleave r request more m).stage i = .answered result := by
  have hFirst : ∃ first, (interleave r request first m).lock = none := by
    cases hLock : m.lock with
    | none => exact ⟨[], hLock⟩
    | some j =>
        obtain ⟨steps, _, hFree⟩ :=
          exists_finished _ h (.inl ((h.holder j).mpr hLock)) (Nat.le_refl _)
        exact ⟨_, hFree⟩
  obtain ⟨first, hFree⟩ := hFirst
  obtain ⟨steps, ⟨result, hAnswered⟩, _⟩ :=
    exists_finished _ (consistent_interleave h first) (.inr hFree : Turn.Open (Machine.turn _ i))
      (Nat.le_refl _)
  exact ⟨first ++ List.replicate steps i, result, by rw [interleave_append, hAnswered]⟩

end CommandMarkup.Registry
