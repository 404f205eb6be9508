/-
  How far a clock can move. Bisection finds the last duration that is accepted (`bisect_isGreatest`),
  so that a clock moves by just what it is told, up to the latest instant (`toNanos_reached`): its time
  is never past what can be represented (`Reachable`), and never goes back (`le_elapsed_advance`).
-/
import HostBench.Clock
import Mathlib.Order.Bounds.Defs

namespace HostBench

namespace Instant

/-- The nanoseconds from an instant to the latest one. -/
def headroom (t : Instant) : Nat := (latest.toNanos - t.toNanos).toNat

theorem isSome_add?_iff {origin : Instant} {d : Duration} :
    (origin.add? d).isSome = true ↔ d.toNanos ≤ origin.headroom := by
  have late := toNanos_le_latest origin
  rw [add?_isSome_iff]
  unfold headroom
  omega

/-- All of the time line is as long as the longest duration. -/
theorem headroom_le_max (t : Instant) : t.headroom ≤ Duration.max.toNanos := by
  have early := t.le_seconds
  unfold headroom
  rw [toNanos_latest, Duration.toNanos_max]
  simp only [toNanos, nanosPerSecond, instantBound] at *
  omega

/-- If all that is shorter than something accepted is accepted too, bisection between an accepted
duration and a refused one comes to the last that is accepted. -/
theorem bisect_isGreatest {accepts : Duration → Bool} {low high : Duration}
    (closed : ∀ a b, a ≤ b → accepts b = true → accepts a = true) (kept : accepts low = true)
    (refused : accepts high = false) :
    IsGreatest {d | accepts d = true} (bisect accepts low high) := by
  fun_induction bisect accepts low high with
  | case1 low high gap accepted ih => exact ih accepted refused
  | case2 low high gap rejected ih => exact ih kept (Bool.eq_false_iff.mpr rejected)
  | case3 low high narrow =>
    refine ⟨kept, ?_⟩
    intro d accepted
    -- what is accepted lies before `high`, and between `low` and `high` there is nothing
    have before : d.toNanos < high.toNanos := by
      refine Nat.lt_of_not_le fun past => ?_
      have above := closed high d past accepted
      rw [refused] at above
      cases above
    have close : ¬ 1 < (high - low).toNanos := narrow
    rw [Duration.toNanos_sub] at close
    rw [Duration.le_def]
    omega

theorem toNanos_reach (origin : Instant) (wanted : Duration) :
    (origin.reach wanted).toNanos = min wanted.toNanos origin.headroom := by
  unfold reach
  by_cases fits : (origin.add? wanted).isSome = true
  · rw [if_pos fits]
    have := isSome_add?_iff.mp fits
    omega
  · rw [if_neg fits]
    have past : ¬ wanted.toNanos ≤ origin.headroom := fun h => fits (isSome_add?_iff.mpr h)
    have closed : ∀ a b : Duration, a ≤ b → (origin.add? b).isSome = true →
        (origin.add? a).isSome = true := by
      intro a b hab hb
      rw [isSome_add?_iff] at hb ⊢
      exact Nat.le_trans hab hb
    have start : (origin.add? .zero).isSome = true := by
      rw [isSome_add?_iff, Duration.toNanos_zero]
      exact Nat.zero_le _
    obtain ⟨accepted, upper⟩ := bisect_isGreatest closed start (Bool.eq_false_iff.mpr fits)
    have below := isSome_add?_iff.mp accepted
    -- all of the headroom is a duration, and it is accepted
    have whole : (Duration.ofNanos origin.headroom).toNanos = origin.headroom := by
      rw [Duration.toNanos_ofNanos]
      exact Nat.min_eq_left (headroom_le_max origin)
    have above := upper (show (origin.add? (.ofNanos origin.headroom)).isSome = true from
      isSome_add?_iff.mpr (Nat.le_of_eq whole))
    rw [Duration.le_def, whole] at above
    omega

end Instant

namespace FakeClock

variable {W : Type} {c : FakeClock W}

/-- The clock shows a time that can be represented. -/
def Reachable (c : FakeClock W) : Prop := c.elapsed.toNanos ≤ c.origin.headroom

theorem toNanos_reached (c : FakeClock W) (delta : Duration) :
    (c.reached delta).toNanos = min (c.elapsed.toNanos + delta.toNanos) c.origin.headroom := by
  have room := Instant.headroom_le_max c.origin
  unfold reached
  rw [Instant.toNanos_reach, Duration.toNanos_add]
  omega

theorem le_reached (reachable : c.Reachable) (delta : Duration) : c.elapsed ≤ c.reached delta := by
  unfold Reachable at reachable
  rw [Duration.le_def, toNanos_reached]
  omega

theorem reachable_withOrigin (origin : Instant) :
    (withOrigin origin : FakeClock W).Reachable := by
  show Duration.zero.toNanos ≤ origin.headroom
  rw [Duration.toNanos_zero]
  exact Nat.zero_le _

@[simp] theorem origin_advance (c : FakeClock W) (delta : Duration) :
    (c.advance delta).1.origin = c.origin := by
  unfold advance
  split <;> rfl

theorem elapsed_advance {delta : Duration} (moves : delta.isZero = false) :
    (c.advance delta).1.elapsed = c.reached delta := by
  unfold advance
  rw [if_neg (Bool.eq_false_iff.mp moves)]

theorem sleeps_advance {delta : Duration} (moves : delta.isZero = false) :
    (c.advance delta).1.sleeps = c.sleeps.map (·.settle (c.reached delta)) := by
  unfold advance
  rw [if_neg (Bool.eq_false_iff.mp moves)]

theorem reachable_advance (reachable : c.Reachable) (delta : Duration) :
    (c.advance delta).1.Reachable := by
  cases still : delta.isZero with
  | true =>
    rw [Duration.isZero_iff.mp still]
    exact reachable
  | false =>
    unfold Reachable
    rw [elapsed_advance still, origin_advance, toNanos_reached]
    exact Nat.min_le_right _ _

theorem le_elapsed_advance (reachable : c.Reachable) (delta : Duration) :
    c.elapsed ≤ (c.advance delta).1.elapsed := by
  cases still : delta.isZero with
  | true =>
    rw [Duration.isZero_iff.mp still]
    exact Nat.le_refl _
  | false =>
    rw [elapsed_advance still]
    exact le_reached reachable delta

end FakeClock

end HostBench
