/-
  How far a clock has moved after a run. Each move adds its length, up to the longest duration, and is
  then cut to what leads from the origin to an instant. Both limits may be met more than once, at moves
  that are nested in wakers too, and still the clock has moved by the plain sum of all lengths or as far
  as it can, whichever is less (`toNanos_inSequence`). So the time can always be told and never goes
  back, and a clock that can move no further still settles its sleeps (`Scene.keeps_time`).

  What holds after each single operation is carried through operations in sequence, and a run with all
  that is nested in it unfolds into these (`Scene.unfolds_run`).
-/
import HostBench.Proofs.Clock.Nested
import Mathlib.Algebra.Ring.Nat

namespace HostBench

variable {E W : Type}

/-! ## What one operation adds -/

/-- How far an operation is to move the clock, in nanoseconds. -/
def ClockOp.nanos : ClockOp W → Nat
  | .advance delta => delta.toNanos
  | _ => 0

/-- How far operations are to move the clock, in nanoseconds. -/
def totalNanos (ops : List (ClockOp W)) : Nat := (ops.map ClockOp.nanos).sum

theorem totalNanos_append (ops ops' : List (ClockOp W)) :
    totalNanos (ops ++ ops') = totalNanos ops + totalNanos ops' := by
  unfold totalNanos
  rw [List.map_append, List.sum_append]

namespace Instant

/-- The headroom of an instant is the greatest offset from it that leads to an instant. -/
theorem isGreatest_headroom (t : Instant) :
    IsGreatest {n : Nat | ∃ u : Instant, u.toNanos = t.toNanos + n} t.headroom := by
  constructor
  · refine ⟨latest, ?_⟩
    have late := t.toNanos_le_latest
    unfold headroom
    omega
  · rintro n ⟨u, reached⟩
    have late := u.toNanos_le_latest
    unfold headroom
    omega

end Instant

/-- A listed sleep is over and goes from the list if it is due, and otherwise nothing becomes of it. -/
theorem Sleep.settle_of_kept {s : Sleep W} (kept : s.cancelled = true → s.listed = false)
    (elapsed : Duration) : s.settle elapsed =
      if s.listed = true ∧ s.deadline ≤ elapsed then
        { s with listed := false, completed := true, waker := none }
      else s := by
  unfold settle
  cases listed : s.listed with
  | false => simp
  | true =>
    have uncancelled : s.cancelled = false := by
      refine Bool.eq_false_iff.mpr fun cancelled => ?_
      rw [kept cancelled] at listed
      cases listed
    simp [uncancelled]

namespace FakeClock

variable {c : FakeClock W}

/-- No sleep is listed that was given up. -/
def Tidy (c : FakeClock W) : Prop := ∀ s ∈ c.sleeps, s.cancelled = true → s.listed = false

theorem tidy_withOrigin (origin : Instant) : (withOrigin origin : FakeClock W).Tidy :=
  fun _ hs => absurd hs List.not_mem_nil

/-- A clock stays tidy when one of its sleeps is replaced by one that is not listed if given up. -/
theorem Tidy.set (tidy : c.Tidy) {s : Sleep W} (kept : s.cancelled = true → s.listed = false)
    (id : SleepId) : ({ c with sleeps := c.sleeps.set id s } : FakeClock W).Tidy := by
  intro s' hs'
  rcases List.mem_or_eq_of_mem_set hs' with old | rfl
  · exact tidy s' old
  · exact kept

theorem Tidy.advance (tidy : c.Tidy) (delta : Duration) : (c.advance delta).1.Tidy := by
  cases still : delta.isZero with
  | true =>
    rw [Duration.isZero_iff.mp still]
    exact tidy
  | false =>
    intro s' hs'
    rw [sleeps_advance still] at hs'
    obtain ⟨s, hs, rfl⟩ := List.mem_map.mp hs'
    rw [Sleep.settle_of_kept (tidy s hs)]
    split
    · exact fun _ => rfl
    · exact tidy s hs

theorem Tidy.change (tidy : c.Tidy) (op : ClockOp W) : (op.change c).Tidy := by
  cases op with
  | sleep d =>
    intro s hs
    rcases List.mem_append.mp hs with old | new
    · exact tidy s old
    · rw [List.mem_singleton.mp new]
      exact fun given_up => by cases given_up
  | poll id w =>
    show (c.poll id w).1.Tidy
    unfold FakeClock.poll
    split
    · exact tidy
    · rename_i s found
      have kept := tidy s (List.mem_of_getElem? found)
      refine tidy.set ?_ id
      unfold Sleep.poll
      split
      · exact kept
      · split <;> exact kept
  | drop id =>
    show (c.cancel id).Tidy
    unfold FakeClock.cancel
    split
    · exact tidy
    · rename_i s found
      have kept := tidy s (List.mem_of_getElem? found)
      refine tidy.set ?_ id
      unfold Sleep.cancel
      split
      · exact kept
      · exact fun _ => rfl
  | advance delta => exact tidy.advance delta

/-- In a tidy clock that moves just those listed sleeps are over that are due then. -/
theorem Tidy.getElem?_advance (tidy : c.Tidy) {delta : Duration} (moves : delta.isZero = false)
    {id : SleepId} {s : Sleep W} (found : c.sleeps[id]? = some s) :
    (c.advance delta).1.sleeps[id]? = some
      (if s.listed = true ∧ s.deadline ≤ (c.advance delta).1.elapsed then
        { s with listed := false, completed := true, waker := none }
      else s) := by
  rw [sleeps_advance moves, List.getElem?_map, found, elapsed_advance moves, Option.map_some,
    Sleep.settle_of_kept (tidy s (List.mem_of_getElem? found))]

theorem origin_change (op : ClockOp W) (c : FakeClock W) : (op.change c).origin = c.origin := by
  cases op with
  | sleep d => rfl
  | poll id w =>
    show (c.poll id w).1.origin = c.origin
    unfold FakeClock.poll
    split <;> rfl
  | drop id =>
    show (c.cancel id).origin = c.origin
    unfold FakeClock.cancel
    split <;> rfl
  | advance delta => exact origin_advance c delta

/-- An operation moves the clock by all that it is to move it, or as far as the clock can move. -/
theorem toNanos_change (reachable : c.Reachable) (op : ClockOp W) :
    (op.change c).elapsed.toNanos = min (c.elapsed.toNanos + op.nanos) c.origin.headroom := by
  have rest : c.elapsed.toNanos = min (c.elapsed.toNanos + 0) c.origin.headroom := by
    rw [Nat.add_zero]
    exact (Nat.min_eq_left reachable).symm
  cases op with
  | sleep d => exact rest
  | poll id w => exact (congrArg Duration.toNanos (elapsed_poll c id w)).trans rest
  | drop id => exact (congrArg Duration.toNanos (elapsed_cancel c id)).trans rest
  | advance delta =>
    show (c.advance delta).1.elapsed.toNanos = min (c.elapsed.toNanos + delta.toNanos) _
    cases still : delta.isZero with
    | true =>
      rw [Duration.isZero_iff.mp still, advance_zero, Duration.toNanos_zero]
      exact rest
    | false => rw [elapsed_advance still, toNanos_reached]

theorem reachable_change (reachable : c.Reachable) (op : ClockOp W) : (op.change c).Reachable := by
  unfold Reachable
  rw [toNanos_change reachable, origin_change]
  exact Nat.min_le_right _ _

/-! ## What operations in sequence add -/

theorem origin_inSequence (c : FakeClock W) (ops : List (ClockOp W)) :
    (c.inSequence ops).origin = c.origin := by
  induction ops generalizing c with
  | nil => rfl
  | cons op ops ih => exact (ih (op.change c)).trans (origin_change op c)

theorem Tidy.inSequence (tidy : c.Tidy) (ops : List (ClockOp W)) : (c.inSequence ops).Tidy := by
  induction ops generalizing c with
  | nil => exact tidy
  | cons op ops ih => exact ih (tidy.change op)

/-- However often the clock meets its limit, in the end it has moved by the sum of all that it was to
move, or as far as it can. -/
theorem toNanos_inSequence (reachable : c.Reachable) (ops : List (ClockOp W)) :
    (c.inSequence ops).elapsed.toNanos =
      min (c.elapsed.toNanos + totalNanos ops) c.origin.headroom := by
  induction ops generalizing c with
  | nil =>
    have nothing : totalNanos ([] : List (ClockOp W)) = 0 := List.sum_nil
    rw [nothing, Nat.add_zero]
    exact (Nat.min_eq_left reachable).symm
  | cons op ops ih =>
    have rest := ih (reachable_change reachable op)
    have first := toNanos_change reachable op
    have total : totalNanos (op :: ops) = op.nanos + totalNanos ops := List.sum_cons
    rw [origin_change] at rest
    show ((op.change c).inSequence ops).elapsed.toNanos = _
    omega

/-- The time that a clock shows can be represented, if it is not past the latest instant. -/
theorem Reachable.exists_now (reachable : c.Reachable) :
    ∃ t, c.now? = some t ∧ t.toNanos = c.origin.toNanos + c.elapsed.toNanos := by
  obtain ⟨t, shown⟩ := Option.isSome_iff_exists.mp (Instant.isSome_add?_iff.mpr reachable)
  exact ⟨t, shown, Instant.toNanos_add? shown⟩

end FakeClock

/-! ## A run from the beginning -/

namespace Scene

/-- A clock at its origin, to which nothing has happened yet. -/
def opening (origin : Instant) (around : E) : Scene E W where
  clock := .withOrigin origin
  around := around
  log := []
  cut := false

/-- The clock as it was when so many things had happened, and the clock as it is if no more did. -/
def clockAt (s : Scene E W) (i : Nat) : FakeClock W := (s.log[i]?.map (·.clock)).getD s.clock

/-- What had been done with the clock when so many things had happened. -/
def doneBy (s : Scene E W) (i : Nat) : List (ClockOp W) := operations (s.log.take i)

variable {depth : Nat} {s s' : Scene E W} {l : List (Occurrence W)}

/-- At each moment the clock is what the operations up to then have left. -/
theorem Unfolds.clockAt_eq (h : Unfolds depth s s' l) (fresh : s.log = []) (i : Nat) :
    s'.clockAt i = s.clock.inSequence (s'.doneBy i) := by
  have whole : s'.log = l := by rw [h.log_eq, fresh, List.nil_append]
  unfold clockAt doneBy
  rw [whole]
  cases found : l[i]? with
  | none =>
    rw [List.take_of_length_le (List.getElem?_eq_none_iff.mp found)]
    exact h.clock_eq
  | some m => exact h.met i m found

theorem doneBy_succ {op : ClockOp W} {i : Nat} {c : FakeClock W}
    (happened : s.log[i]? = some ⟨c, .did op⟩) : s.doneBy (i + 1) = s.doneBy i ++ [op] := by
  unfold doneBy
  rw [List.take_add_one, happened, operations_append]
  rfl

theorem totalNanos_doneBy_mono (s : Scene E W) {i j : Nat} (le : i ≤ j) :
    totalNanos (s.doneBy i) ≤ totalNanos (s.doneBy j) := by
  obtain ⟨between, split⟩ := List.take_prefix_take_left (l := s.log) le
  have later : s.doneBy j = s.doneBy i ++ operations between := by
    unfold doneBy
    rw [← split, operations_append]
  rw [later, totalNanos_append]
  exact Nat.le_add_right _ _

/-- What is to be said of the time that a clock shows in a run from `origin`, at each moment of it and
at the end. -/
structure KeepsTime (origin : Instant) (s : Scene E W) : Prop where
  /-- The headroom is all that can be added to the origin. -/
  room : IsGreatest {n : Nat | ∃ u : Instant, u.toNanos = origin.toNanos + n} origin.headroom
  /-- The clock has moved by the sum of all that it was to move, or as far as it can. -/
  elapsed_eq : ∀ i, (s.clockAt i).elapsed.toNanos =
    min (totalNanos (s.doneBy i)) (min origin.headroom Duration.max.toNanos)
  /-- The time can be told. -/
  told : ∀ i, ∃ t, (s.clockAt i).now? = some t ∧
    t.toNanos = origin.toNanos + (s.clockAt i).elapsed.toNanos
  /-- Time does not go back, -/
  onward : ∀ i j, i ≤ j → (s.clockAt i).elapsed ≤ (s.clockAt j).elapsed
  /-- and does not seem to. -/
  onward_told : ∀ i j t u, i ≤ j → (s.clockAt i).now? = some t → (s.clockAt j).now? = some u →
    t.toNanos ≤ u.toNanos
  /-- A clock that has moved as far as it can stays there, whatever move is made -/
  rests : ∀ i, (s.clockAt i).elapsed.toNanos = min origin.headroom Duration.max.toNanos →
    (∀ delta, ((s.clockAt i).advance delta).1.elapsed = (s.clockAt i).elapsed) ∧
      ∀ j, i ≤ j → (s.clockAt j).elapsed = (s.clockAt i).elapsed
  /-- and each move, at the limit too, ends the listed sleeps that are due, and no others. -/
  settles : ∀ i delta, delta.isZero = false → ∀ (id : SleepId) (sleep : Sleep W),
    (s.clockAt i).sleeps[id]? = some sleep →
    ((s.clockAt i).advance delta).1.sleeps[id]? = some
      (if sleep.listed = true ∧ sleep.deadline ≤ ((s.clockAt i).advance delta).1.elapsed then
        { sleep with listed := false, completed := true, waker := none }
      else sleep)
  /-- The moves that are made in the run are such moves. -/
  moved : ∀ i c delta, s.log[i]? = some ⟨c, .did (.advance delta)⟩ →
    s.clockAt (i + 1) = ((s.clockAt i).advance delta).1

/-- Whatever is done with a clock, by a client and by those whom it wakes, nested as deep as there is
room for, the clock has moved by the sum of all its moves or as far as it can. It can always tell the
time, which never goes back, and it settles its sleeps even where it can move no further. -/
theorem keeps_time (origin : Instant) (around : E) (errand : W → Errand E W) (room : Nat)
    (client : Errand E W) :
    KeepsTime origin (client.run (wakeUp errand room 0) (opening origin around)).2 := by
  obtain ⟨l, unfolds⟩ :=
    unfolds_run (unfolds_wakeUp errand room 0) client (opening origin around)
  generalize (client.run (wakeUp errand room 0) (opening origin around)).2 = s at unfolds
  have clock_eq : ∀ i, s.clockAt i = (FakeClock.withOrigin origin).inSequence (s.doneBy i) :=
    unfolds.clockAt_eq rfl
  have origin_eq : ∀ i, (s.clockAt i).origin = origin := fun i => by
    rw [clock_eq, FakeClock.origin_inSequence]
    rfl
  have longest := origin.headroom_le_max
  have elapsed_eq : ∀ i, (s.clockAt i).elapsed.toNanos =
      min (totalNanos (s.doneBy i)) origin.headroom := fun i => by
    have zero : (FakeClock.withOrigin origin : FakeClock W).elapsed.toNanos = 0 :=
      Duration.toNanos_zero
    rw [clock_eq, FakeClock.toNanos_inSequence (FakeClock.reachable_withOrigin origin), zero,
      Nat.zero_add]
    rfl
  have reachable : ∀ i, (s.clockAt i).Reachable := fun i => by
    unfold FakeClock.Reachable
    rw [origin_eq, elapsed_eq]
    exact Nat.min_le_right _ _
  have tidy : ∀ i, (s.clockAt i).Tidy := fun i => by
    rw [clock_eq]
    exact (FakeClock.tidy_withOrigin origin).inSequence _
  have told : ∀ i, ∃ t, (s.clockAt i).now? = some t ∧
      t.toNanos = origin.toNanos + (s.clockAt i).elapsed.toNanos := fun i => by
    have shown := (reachable i).exists_now
    rw [origin_eq] at shown
    exact shown
  have onward : ∀ i j, i ≤ j → (s.clockAt i).elapsed ≤ (s.clockAt j).elapsed := by
    intro i j le
    have more := s.totalNanos_doneBy_mono le
    rw [Duration.le_def, elapsed_eq, elapsed_eq]
    omega
  constructor
  case room => exact origin.isGreatest_headroom
  case elapsed_eq =>
    intro i
    rw [Nat.min_eq_left longest]
    exact elapsed_eq i
  case told => exact told
  case onward => exact onward
  case onward_told =>
    intro i j t u le shown shown'
    obtain ⟨t', first, at_first⟩ := told i
    obtain ⟨u', second, at_second⟩ := told j
    cases first.symm.trans shown
    cases second.symm.trans shown'
    have more := Duration.le_def.mp (onward i j le)
    omega
  case rests =>
    intro i limit
    rw [Nat.min_eq_left longest] at limit
    -- a clock that is not before this one and can move no further shows the same time
    have same : ∀ e : Duration, (s.clockAt i).elapsed ≤ e → e.toNanos ≤ origin.headroom →
        e = (s.clockAt i).elapsed := by
      intro e past within
      rw [← limit] at within
      exact Duration.toNanos_inj (Nat.le_antisymm within past)
    constructor
    · intro delta
      have within := FakeClock.reachable_advance (reachable i) delta
      unfold FakeClock.Reachable at within
      rw [FakeClock.origin_advance, origin_eq] at within
      exact same _ (FakeClock.le_elapsed_advance (reachable i) delta) within
    · intro j le
      have within := reachable j
      unfold FakeClock.Reachable at within
      rw [origin_eq] at within
      exact same _ (onward i j le) within
  case settles =>
    intro i delta moves id sleep found
    exact (tidy i).getElem?_advance moves found
  case moved =>
    intro i c delta happened
    rw [clock_eq, clock_eq, doneBy_succ happened, FakeClock.inSequence_append]
    rfl

end Scene

end HostBench
