/-
  When a sleep is ready. It is ready just when the clock has moved to its end (`readyAfter_iff`), and
  the end is the sum of the time at which it was begun and its length, or the longest duration where the
  sum would pass it. Nothing but moves of the clock makes a difference to that (`ready_exactly`).

  So a sleep lasts for its whole length, except where the sum passes the longest duration: then it is
  ready as soon as the clock has moved that far, which only a clock from the earliest instant can
  (`rested_iff`).
-/
import HostBench.Proofs.Clock.Tale

namespace HostBench

variable {W : Type}

/-- The clock is moved. -/
def ClockOp.isAdvance : ClockOp W → Bool
  | .advance _ => true
  | _ => false

namespace Observed

/-- A sleep of length `d` is begun, this and that is done, and then the sleep is polled: whether it is
ready. -/
def readyAfter (o : Observed W) (d : Duration) (ops : List (ClockOp W)) (w : W) : Bool :=
  ((run (.sleep d :: ops) o).clock.poll o.begun.length w).2

variable {o o' : Observed W} {op : ClockOp W} {origin : Instant} {d : Duration}

theorem tale?_of_begun (faithful : o.Faithful) (d : Duration) :
    ((ClockOp.sleep d).perform o).tale? o.begun.length =
      some ⟨o.clock.elapsed, d, false, none⟩ := by
  rw [perform_sleep, faithful.tale?_begun, if_pos rfl]

/-- A sleep is ready just when the clock has moved to its end. -/
theorem Faithful.readyAfter_iff (faithful : o.Faithful) (d : Duration) (ops : List (ClockOp W))
    (w : W) : o.readyAfter d ops w = true ↔
      o.clock.elapsed + d ≤ (Observed.run (.sleep d :: ops) o).clock.elapsed := by
  obtain ⟨t, told, onward⟩ := (faithful.sleep d).onward_run (tale?_of_begun faithful d) ops
  have ready := ((faithful.sleep d).run ops).ready_iff told w
  rw [onward.deadline_eq] at ready
  exact ready

/-! ## Only moves make a difference -/

theorem origin_does (does : op.Does o o') : o'.clock.origin = o.clock.origin := by
  cases does with
  | sleep d => rfl
  | poll held w =>
    unfold FakeClock.poll
    split <;> rfl
  | drop held =>
    unfold FakeClock.cancel
    split <;> rfl
  | advance moves => exact FakeClock.origin_advance _ _
  | nothing _ => rfl

theorem origin_run (ops : List (ClockOp W)) (o : Observed W) :
    (run ops o).clock.origin = o.clock.origin := by
  induction ops generalizing o with
  | nil => rfl
  | cons op ops ih => rw [run_cons, ih, origin_does (op.does_perform o)]

theorem elapsed_does (does : op.Does o o') (stays : op.isAdvance = false) :
    o'.clock.elapsed = o.clock.elapsed := by
  cases does with
  | sleep d => rfl
  | poll held w => exact FakeClock.elapsed_poll _ _ _
  | drop held => exact FakeClock.elapsed_cancel _ _
  | advance moves => cases stays
  | nothing _ => rfl

/-- Where a move leads depends on nothing but the origin and the time that has passed. -/
theorem elapsed_advance_congr (origin_eq : o.clock.origin = o'.clock.origin)
    (elapsed_eq : o.clock.elapsed = o'.clock.elapsed) (delta : Duration) :
    ((ClockOp.advance delta).perform o).clock.elapsed =
      ((ClockOp.advance delta).perform o').clock.elapsed := by
  cases still : delta.isZero with
  | true =>
    rw [Duration.isZero_iff.mp still, perform_advance_zero, perform_advance_zero]
    exact elapsed_eq
  | false =>
    rw [perform_advance still, perform_advance still, FakeClock.elapsed_advance still,
      FakeClock.elapsed_advance still]
    unfold FakeClock.reached
    rw [origin_eq, elapsed_eq]

/-- Sleeps, polls and drops can be left out of a run, and the clock moves as far. -/
theorem elapsed_run_moves (origin_eq : o.clock.origin = o'.clock.origin)
    (elapsed_eq : o.clock.elapsed = o'.clock.elapsed) (ops : List (ClockOp W)) :
    (run ops o).clock.elapsed = (run (ops.filter ClockOp.isAdvance) o').clock.elapsed := by
  induction ops generalizing o o' with
  | nil => exact elapsed_eq
  | cons op ops ih =>
    cases moves : op.isAdvance with
    | true =>
      rw [List.filter_cons_of_pos moves, run_cons, run_cons]
      refine ih ?_ ?_
      · rw [origin_does (op.does_perform o), origin_does (op.does_perform o'), origin_eq]
      · cases op with
        | advance delta => exact elapsed_advance_congr origin_eq elapsed_eq delta
        | _ => cases moves
    | false =>
      rw [List.filter_cons_of_neg (by rw [moves]; exact Bool.false_ne_true), run_cons]
      refine ih ?_ ?_
      · rw [origin_does (op.does_perform o), origin_eq]
      · rw [elapsed_does (op.does_perform o) moves, elapsed_eq]

/-! ## How far a clock gets -/

theorem reachable_run (origin : Instant) (ops : List (ClockOp W)) :
    (run ops (start origin)).clock.elapsed.toNanos ≤ origin.headroom := by
  have reachable := (faithful_run origin ops).reachable
  unfold FakeClock.Reachable at reachable
  rw [origin_run] at reachable
  exact reachable

/-- The furthest that a clock ever gets is the longest offset that leads to an instant. -/
theorem isGreatest_elapsed (W : Type) (origin : Instant) :
    IsGreatest {e | ∃ ops : List (ClockOp W), (run ops (start origin)).clock.elapsed = e}
      (origin.reach .max) := by
  have most : (origin.reach .max).toNanos = origin.headroom := by
    rw [Instant.toNanos_reach]
    exact Nat.min_eq_right origin.headroom_le_max
  constructor
  · refine ⟨[.advance .max], Duration.toNanos_inj ?_⟩
    have moved : (run [ClockOp.advance .max] (start origin : Observed W)).clock.elapsed =
        (start origin : Observed W).clock.reached .max := by
      show ((ClockOp.advance .max).perform (start origin : Observed W)).clock.elapsed = _
      rw [perform_advance rfl, FakeClock.elapsed_advance rfl]
    have zero : (start origin : Observed W).clock.elapsed = .zero := rfl
    have room : (start origin : Observed W).clock.origin.headroom = origin.headroom := rfl
    have longest := origin.headroom_le_max
    rw [moved, most, FakeClock.toNanos_reached, zero, room, Duration.toNanos_zero]
    omega
  · rintro e ⟨ops, rfl⟩
    rw [Duration.le_def, most]
    exact reachable_run origin ops

/-- A poll of a sleep is ready just if the clock has moved to its end, whatever else was done. So a
sleep stays ready, nothing but moves of the clock decides when it is, and one that ends past all that
the clock can reach never is. -/
theorem ready_exactly (origin : Instant) (ops : List (ClockOp W)) (d : Duration)
    (ops' : List (ClockOp W)) (w : W) :
    ((run ops (start origin)).readyAfter d ops' w = true ↔
      min ((run ops (start origin)).clock.elapsed.toNanos + d.toNanos) Duration.max.toNanos ≤
        (run (ops ++ .sleep d :: ops') (start origin)).clock.elapsed.toNanos) ∧
    (∀ ops'' w', (run ops (start origin)).readyAfter d ops' w = true →
      (run ops (start origin)).readyAfter d (ops' ++ ops'') w' = true) ∧
    (run ops (start origin)).readyAfter d ops' w =
      (run ops (start origin)).readyAfter d (ops'.filter ClockOp.isAdvance) w ∧
    ∃ limit, IsGreatest
        {e | ∃ ops : List (ClockOp W), (run ops (start origin)).clock.elapsed = e} limit ∧
      (limit < (run ops (start origin)).clock.elapsed + d →
        (run ops (start origin)).readyAfter d ops' w = false) := by
  have faithful : (run ops (start origin)).Faithful := faithful_run origin ops
  have ready := faithful.readyAfter_iff d
  refine ⟨?_, ?_, ?_, origin.reach .max, isGreatest_elapsed W origin, ?_⟩
  · rw [ready, Duration.le_def, Duration.toNanos_add, run_append]
  · intro ops'' w' is_ready
    rw [ready] at is_ready ⊢
    have onward := ((faithful.sleep d).run ops').le_elapsed_run ops''
    rw [← run_append] at onward
    exact Nat.le_trans is_ready onward
  · rw [Bool.eq_iff_iff, ready, ready, run_cons, run_cons, elapsed_run_moves rfl rfl ops']
  · intro past
    refine Bool.eq_false_iff.mpr fun is_ready => ?_
    have reached : (run (ops ++ .sleep d :: ops') (start origin)).clock.elapsed ≤
        origin.reach .max := (isGreatest_elapsed W origin).2 ⟨_, rfl⟩
    rw [ready, ← run_append] at is_ready
    exact absurd (Nat.le_trans is_ready reached) (Nat.not_le.mpr past)

end Observed

/-! ## How long a sleep lasts -/

namespace Instant

theorem earliest_in_range : -instantBound ≤ -9223372036854775808 ∧
    -9223372036854775808 < instantBound := by decide

/-- The earliest instant that can be represented. -/
def earliest : Instant :=
  ⟨-9223372036854775808, 0, earliest_in_range.1, earliest_in_range.2, nanosPerSecond_pos⟩

/-- Only from the earliest instant the latest is as far as the longest duration. -/
theorem eq_earliest_of_headroom {t : Instant} (whole : Duration.max.toNanos ≤ t.headroom) :
    t = earliest := by
  have early := t.le_seconds
  unfold headroom at whole
  rw [toNanos_latest, Duration.toNanos_max] at whole
  simp only [toNanos, nanosPerSecond, instantBound] at *
  have seconds : t.seconds = -9223372036854775808 := by omega
  have nanos : t.nanos = 0 := by omega
  exact Instant.ext seconds nanos

end Instant

namespace Observed

/-- A sleep that is ready has lasted for its whole length just if the sum of the time at which it was
begun and its length is a duration. Where it is not, the clock has moved by the longest duration, and
has come from the earliest instant. -/
theorem rested_iff {origin : Instant} {ops : List (ClockOp W)} {d : Duration}
    {ops' : List (ClockOp W)} {w : W}
    (ready : (run ops (start origin)).readyAfter d ops' w = true) :
    (d ≤ (run (ops ++ .sleep d :: ops') (start origin)).clock.elapsed -
        (run ops (start origin)).clock.elapsed ↔
      (run ops (start origin)).clock.elapsed.toNanos + d.toNanos ≤ Duration.max.toNanos) ∧
    (Duration.max.toNanos < (run ops (start origin)).clock.elapsed.toNanos + d.toNanos →
      (run (ops ++ .sleep d :: ops') (start origin)).clock.elapsed = .max ∧ origin = .earliest) := by
  have ended := (ready_exactly origin ops d ops' w).1.mp ready
  have longest := Duration.le_def.mp
    (Duration.le_max (run (ops ++ .sleep d :: ops') (start origin)).clock.elapsed)
  have room := reachable_run origin (ops ++ .sleep d :: ops')
  constructor
  · have begun := Duration.le_def.mp (Duration.le_max (run ops (start origin)).clock.elapsed)
    rw [Duration.le_def, Duration.toNanos_sub]
    omega
  · intro past
    have most : (run (ops ++ .sleep d :: ops') (start origin)).clock.elapsed.toNanos =
        Duration.max.toNanos := by
      rw [Nat.min_eq_right (Nat.le_of_lt past)] at ended
      exact Nat.le_antisymm longest ended
    exact ⟨Duration.toNanos_inj most, Instant.eq_earliest_of_headroom (most ▸ room)⟩

/-- A sleep of a nanosecond that is begun a nanosecond before the end of the longest time line. -/
theorem rested_at_the_end :
    let o : Observed Unit := run [.advance (.max - .ofNanos 1)] (start .earliest)
    o.readyAfter (.ofNanos 1) [.advance (.ofSeconds 1)] () = true ∧
      Duration.ofNanos 1 ≤ (run ([.advance (.max - .ofNanos 1)] ++
        .sleep (.ofNanos 1) :: [.advance (.ofSeconds 1)]) (start .earliest : Observed Unit)).clock.elapsed -
        o.clock.elapsed := by
  have ready : (run [.advance (.max - .ofNanos 1)] (start .earliest : Observed Unit)).readyAfter
      (.ofNanos 1) [.advance (.ofSeconds 1)] () = true := by decide +kernel
  exact ⟨ready, (rested_iff ready).1.mpr (by decide +kernel)⟩

/-- A sleep of a nanosecond that is begun at the end of the longest time line is ready at once. -/
theorem unrested_past_the_end :
    let o : Observed Unit := run [.advance .max] (start .earliest)
    o.readyAfter (.ofNanos 1) [] () = true ∧
      ¬ Duration.ofNanos 1 ≤ (run ([.advance .max] ++ .sleep (.ofNanos 1) :: [])
        (start .earliest : Observed Unit)).clock.elapsed - o.clock.elapsed := by
  decide +kernel

end Observed

end HostBench
