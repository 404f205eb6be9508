/-
  What holds of every sleep of a clock, whoever uses it. A sleep is known to be over only if it is due,
  and it is listed as long as it is not due, unless it was given up (`Sleep.Sane`). Polls, giving up and
  moves of the clock keep that, and none of them changes when the sleep ends. So a poll is ready exactly
  when the clock has moved to the end of the sleep (`Sleep.Sane.ready_iff`).
-/
import HostBench.Proofs.Clock.Reach

namespace HostBench

variable {W : Type}

namespace Sleep

theorem deadline_poll (elapsed : Duration) (w : W) (s : Sleep W) :
    (s.poll elapsed w).1.deadline = s.deadline := by
  unfold poll
  split
  · rfl
  · split <;> rfl

theorem deadline_cancel (s : Sleep W) : s.cancel.deadline = s.deadline := by
  unfold cancel
  split <;> rfl

theorem deadline_settle (elapsed : Duration) (s : Sleep W) :
    (s.settle elapsed).deadline = s.deadline := by
  unfold settle
  split
  · rfl
  · split
    · rfl
    · split <;> rfl

end Sleep

/-- A sleep of a clock that has moved to `elapsed` is known to be over only if it is due, and before
that it is listed, if it was not given up. -/
structure Sleep.Sane (elapsed : Duration) (s : Sleep W) : Prop where
  due : s.completed = true → s.deadline ≤ elapsed
  listed : s.cancelled = false → ¬ s.deadline ≤ elapsed → s.listed = true

namespace Sleep.Sane

variable {elapsed later : Duration} {s : Sleep W}

theorem begun (elapsed d : Duration) :
    (⟨elapsed + d, none, !d.isZero, false, false⟩ : Sleep W).Sane elapsed where
  due ended := by cases ended
  listed _ unreached := by
    cases still : d.isZero with
    | false => rfl
    | true =>
      rw [Duration.isZero_iff.mp still, Duration.le_def, Duration.toNanos_add,
        Duration.toNanos_zero] at unreached
      omega

theorem poll (sane : s.Sane elapsed) (w : W) : (s.poll elapsed w).1.Sane elapsed := by
  unfold Sleep.poll
  split
  · exact sane
  · split
    · rename_i due
      exact ⟨fun _ => due, sane.listed⟩
    · exact ⟨sane.due, sane.listed⟩

theorem cancel (sane : s.Sane elapsed) : s.cancel.Sane elapsed := by
  unfold Sleep.cancel
  split
  · exact sane
  · exact ⟨sane.due, fun kept => by cases kept⟩

/-- The clock may move on, if it settles the sleep. -/
theorem settle (sane : s.Sane elapsed) (onward : elapsed ≤ later) : (s.settle later).Sane later := by
  have due : s.completed = true → s.deadline ≤ later :=
    fun ended => Nat.le_trans (sane.due ended) onward
  have listed : s.cancelled = false → ¬ s.deadline ≤ later → s.listed = true :=
    fun kept unreached => sane.listed kept fun reached => unreached (Nat.le_trans reached onward)
  unfold Sleep.settle
  split
  · exact ⟨due, listed⟩
  · split
    · rename_i cancelled
      exact ⟨due, fun kept => by rw [cancelled] at kept; cases kept⟩
    · split
      · rename_i reached
        exact ⟨fun _ => reached, fun _ unreached => absurd reached unreached⟩
      · exact ⟨due, listed⟩

/-- A poll of the sleep is ready just if its end is reached. -/
theorem ready_iff (sane : s.Sane elapsed) (w : W) :
    (s.poll elapsed w).2 = true ↔ s.deadline ≤ elapsed := by
  unfold Sleep.poll
  split
  · rename_i completed
    exact iff_of_true rfl (sane.due completed)
  · split
    · rename_i due
      exact iff_of_true rfl due
    · rename_i early
      exact iff_of_false Bool.false_ne_true early

end Sleep.Sane

namespace FakeClock

variable {c : FakeClock W} {id : SleepId} {s : Sleep W}

theorem poll_of_getElem? (found : c.sleeps[id]? = some s) (w : W) :
    c.poll id w = ({ c with sleeps := c.sleeps.set id (s.poll c.elapsed w).1 },
      (s.poll c.elapsed w).2) := by
  unfold poll
  rw [found]

theorem cancel_of_getElem? (found : c.sleeps[id]? = some s) :
    c.cancel id = { c with sleeps := c.sleeps.set id s.cancel } := by
  unfold cancel
  rw [found]

/-- A sleep is ready exactly if it is due. -/
theorem ready_iff (found : c.sleeps[id]? = some s) (sane : s.Sane c.elapsed) (w : W) :
    (c.poll id w).2 = true ↔ s.deadline ≤ c.elapsed := by
  rw [poll_of_getElem? found]
  exact sane.ready_iff w

end FakeClock

end HostBench
