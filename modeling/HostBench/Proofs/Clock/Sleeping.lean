/-
  One sleep among anything that is done with its clock. Whoever has the clock may begin, poll and give
  up sleeps and move it, as often as they like. What one operation leaves of a sleep is said once
  (`exists_change`): the deadline stays, and so does what holds of every sleep (`Sleep.Sane`).

  So a sleep that was begun is ready exactly when the clock has moved to its end
  (`FakeClock.ready_iff`), and a move that reaches the end wakes whoever has found it unready before
  (`woken_of_due`).
-/
import HostBench.Proofs.Clock.Elapsed
import HostBench.Proofs.Clock.Sane

namespace HostBench

variable {W : Type}

namespace FakeClock

variable {c : FakeClock W} {id : SleepId} {s : Sleep W}

/-- What is done to one sleep leaves a sleep sane and its deadline as it is. -/
theorem exists_set (found : c.sleeps[id]? = some s) (sane : s.Sane c.elapsed) {i : SleepId}
    {t t' : Sleep W} (changed : c.sleeps[i]? = some t) (deadline : t'.deadline = t.deadline)
    (stays : t.Sane c.elapsed → t'.Sane c.elapsed) :
    ∃ s', (c.sleeps.set i t')[id]? = some s' ∧ s'.deadline = s.deadline ∧ s'.Sane c.elapsed := by
  by_cases here : i = id
  · subst here
    cases found.symm.trans changed
    exact ⟨t', List.getElem?_set_self (List.getElem?_eq_some_iff.mp found).1, deadline, stays sane⟩
  · refine ⟨s, ?_, rfl, sane⟩
    rw [List.getElem?_set_ne here, found]

/-- **One operation.** The deadline of a sleep stays, and the sleep stays sane. -/
theorem exists_change (reachable : c.Reachable) (found : c.sleeps[id]? = some s)
    (sane : s.Sane c.elapsed) (op : ClockOp W) : ∃ s', (op.change c).sleeps[id]? = some s' ∧
      s'.deadline = s.deadline ∧ s'.Sane (op.change c).elapsed := by
  cases op with
  | sleep d =>
    refine ⟨s, ?_, rfl, sane⟩
    show (c.sleeps ++ _)[id]? = some s
    rw [List.getElem?_append_left (List.getElem?_eq_some_iff.mp found).1, found]
  | poll i w =>
    show ∃ s', (c.poll i w).1.sleeps[id]? = some s' ∧ _ ∧ s'.Sane (c.poll i w).1.elapsed
    cases polled : c.sleeps[i]? with
    | none =>
      have idle : c.poll i w = (c, false) := by
        unfold FakeClock.poll
        rw [polled]
      rw [idle]
      exact ⟨s, found, rfl, sane⟩
    | some t =>
      rw [poll_of_getElem? polled]
      exact exists_set found sane polled (Sleep.deadline_poll _ w t) fun sane => sane.poll w
  | drop i =>
    show ∃ s', (c.cancel i).sleeps[id]? = some s' ∧ _ ∧ s'.Sane (c.cancel i).elapsed
    cases dropped : c.sleeps[i]? with
    | none =>
      have idle : c.cancel i = c := by
        unfold FakeClock.cancel
        rw [dropped]
      rw [idle]
      exact ⟨s, found, rfl, sane⟩
    | some t =>
      rw [cancel_of_getElem? dropped]
      exact exists_set found sane dropped (Sleep.deadline_cancel t) Sleep.Sane.cancel
  | advance delta =>
    show ∃ s', (c.advance delta).1.sleeps[id]? = some s' ∧ _ ∧ s'.Sane (c.advance delta).1.elapsed
    cases still : delta.isZero with
    | true =>
      rw [Duration.isZero_iff.mp still]
      exact ⟨s, found, rfl, sane⟩
    | false =>
      rw [sleeps_advance still, elapsed_advance still, List.getElem?_map, found]
      exact ⟨_, rfl, s.deadline_settle _, sane.settle (le_reached reachable delta)⟩

/-- **All operations.** -/
theorem exists_inSequence (reachable : c.Reachable) (found : c.sleeps[id]? = some s)
    (sane : s.Sane c.elapsed) (ops : List (ClockOp W)) : ∃ s', (c.inSequence ops).sleeps[id]? = some s' ∧
      s'.deadline = s.deadline ∧ s'.Sane (c.inSequence ops).elapsed := by
  induction ops generalizing c s with
  | nil => exact ⟨s, found, rfl, sane⟩
  | cons op ops ih =>
    obtain ⟨t, kept, same, sane⟩ := exists_change reachable found sane op
    obtain ⟨u, last, still, sane⟩ := ih (reachable_change reachable op) kept sane
    exact ⟨u, last, still.trans same, sane⟩

theorem Reachable.inSequence (reachable : c.Reachable) (ops : List (ClockOp W)) :
    (c.inSequence ops).Reachable := by
  unfold Reachable
  rw [toNanos_inSequence reachable, origin_inSequence]
  exact Nat.min_le_right _ _

/-- A clock that is moved by nothing stays where it is. -/
theorem reached_zero (reachable : c.Reachable) : c.reached .zero = c.elapsed := by
  apply Duration.toNanos_inj
  rw [toNanos_reached, Duration.toNanos_zero, Nat.add_zero]
  exact Nat.min_eq_left reachable

/-- A sleep that was found unready wakes whoever has asked when the clock moves to its end. -/
theorem woken_of_due (reachable : c.Reachable) (found : c.sleeps[id]? = some s)
    (sane : s.Sane c.elapsed) (kept : s.cancelled = false) {w : W}
    (unready : (c.poll id w).2 = false) {delta : Duration} (reached : s.deadline ≤ c.reached delta) :
    w ∈ ((c.poll id w).1.advance delta).2 := by
  have unreached : ¬ s.deadline ≤ c.elapsed := fun due => by
    rw [(ready_iff found sane w).mpr due] at unready
    cases unready
  have moves : delta.isZero = false := Bool.eq_false_iff.mpr fun still => unreached (by
    rwa [Duration.isZero_iff.mp still, reached_zero reachable] at reached)
  have incomplete : s.completed = false :=
    Bool.eq_false_iff.mpr fun ended => unreached (sane.due ended)
  have polled : (c.poll id w).1 = { c with sleeps := c.sleeps.set id { s with waker := some w } } := by
    simp [poll_of_getElem? found, Sleep.poll, incomplete, unreached]
  have listed : s.listed = true := sane.listed kept unreached
  rw [polled]
  unfold FakeClock.advance
  rw [if_neg (Bool.eq_false_iff.mp moves)]
  refine List.mem_filterMap.mpr ⟨{ s with waker := some w }, ?_, ?_⟩
  · exact List.mem_of_getElem? (List.getElem?_set_self (List.getElem?_eq_some_iff.mp found).1)
  · have due : s.deadline ≤ c.origin.reach (c.elapsed + delta) := reached
    simp [Sleep.wakes, listed, kept, FakeClock.reached, due]

end FakeClock

end HostBench
