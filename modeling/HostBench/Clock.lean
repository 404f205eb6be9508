/-
  A clock that moves by hand, and its sleeps. A sleep is listed until it is found due or given up;
  moving the clock names the wakers of the sleeps that became due, and waking is left to the caller,
  so that a waker may use the clock again. Only `advance` moves the time (`elapsed_sleep`,
  `elapsed_poll`, `elapsed_cancel`).
-/
import HostBench.Instant
import HostBench.Place
import HostBench.Text.Dump

namespace HostBench

/-- One sleep of a clock: when it ends and whom it wakes. -/
structure Sleep (W : Type) where
  deadline : Duration
  /-- Whom the last poll that had to wait asked to wake. -/
  waker : Option W
  /-- The clock still waits for the deadline on behalf of this sleep. -/
  listed : Bool
  /-- The sleep is known to be over. -/
  completed : Bool
  /-- The sleep was given up before it was over. -/
  cancelled : Bool

/-- The number of a sleep among those of its clock, in order of creation. -/
abbrev SleepId := Nat

/-- A clock that moves by hand: where it started, how far it has moved, and every sleep that was
begun on it. -/
structure FakeClock (W : Type) where
  origin : Instant
  elapsed : Duration
  sleeps : List (Sleep W)

namespace Sleep

variable {W : Type}

/-- A listed sleep when the clock has moved to `elapsed`: it goes from the list if it was given up or
is due, and is over if it is due. -/
def settle (elapsed : Duration) (s : Sleep W) : Sleep W :=
  if !s.listed then s
  else if s.cancelled then { s with listed := false }
  else if s.deadline ≤ elapsed then { s with listed := false, completed := true, waker := none }
  else s

/-- Whom a listed sleep wakes when the clock has moved to `elapsed`. -/
def wakes (elapsed : Duration) (s : Sleep W) : Option W :=
  if s.listed && !s.cancelled && s.deadline ≤ elapsed then s.waker else none

/-- A poll at `elapsed` on behalf of `w`: whether the sleep is over; if not, it wakes `w`. -/
def poll (elapsed : Duration) (w : W) (s : Sleep W) : Sleep W × Bool :=
  if s.completed then (s, true)
  else if s.deadline ≤ elapsed then ({ s with completed := true }, true)
  else ({ s with waker := some w }, false)

/-- Gives the sleep up, unless it is known to be over. -/
def cancel (s : Sleep W) : Sleep W :=
  if s.completed then s else { s with cancelled := true, listed := false, waker := none }

end Sleep

namespace FakeClock

variable {W : Type}

/-- A clock that has not moved from its origin. -/
def withOrigin (origin : Instant) : FakeClock W := ⟨origin, .zero, []⟩

instance : Inhabited (FakeClock W) := ⟨withOrigin default⟩

/-- The point in time that the clock shows, if it can be represented. -/
def now? (c : FakeClock W) : Option Instant := c.origin.add? c.elapsed

/-- How many sleeps are listed. -/
def pendingSleepers (c : FakeClock W) : Nat := c.sleeps.countP (·.listed)

/-- Begins a sleep of length `d`; one of no length is not listed. -/
def sleep (c : FakeClock W) (d : Duration) : FakeClock W × SleepId :=
  ({ c with sleeps := c.sleeps ++ [⟨c.elapsed + d, none, !d.isZero, false, false⟩] },
    c.sleeps.length)

/-- Polls a sleep on behalf of `w`: whether it is over. -/
def poll (c : FakeClock W) (id : SleepId) (w : W) : FakeClock W × Bool :=
  match c.sleeps[id]? with
  | none => (c, false)
  | some s =>
    let (s, ready) := s.poll c.elapsed w
    ({ c with sleeps := c.sleeps.set id s }, ready)

/-- Gives a sleep up. -/
def cancel (c : FakeClock W) (id : SleepId) : FakeClock W :=
  match c.sleeps[id]? with
  | none => c
  | some s => { c with sleeps := c.sleeps.set id s.cancel }

/-- How far the clock is after a move by `delta`: no further than the latest instant. -/
def reached (c : FakeClock W) (delta : Duration) : Duration := c.origin.reach (c.elapsed + delta)

/-- Moves the clock, settles its sleeps and names the wakers of those that became due, in order of
creation. A move by nothing does nothing. -/
def advance (c : FakeClock W) (delta : Duration) : FakeClock W × List W :=
  if delta.isZero then (c, [])
  else
    let elapsed := c.reached delta
    ({ c with elapsed := elapsed, sleeps := c.sleeps.map (·.settle elapsed) },
      c.sleeps.filterMap (·.wakes elapsed))

/-- Moves the clock at a place. The clock is settled and the wakers are fixed before the first of
them runs; each may do anything with the state, the clock included. -/
def advanceAt {σ : Type} (place : Place σ (FakeClock W)) (report : Nat → StateM σ Unit)
    (wake : W → StateM σ Unit) (delta : Duration) : StateM σ Unit := do
  if delta.isZero then return ()
  else
    let (c, woken) := (← place.read).advance delta
    place.write c
    report woken.length
    woken.forM wake

/-- The clock as a dump. -/
def dump (c : FakeClock W) : Dump :=
  .record "FakeClock" [("elapsed", .text c.elapsed.text),
    ("pending_sleepers", .nat c.pendingSleepers)]

@[simp] theorem advance_zero (c : FakeClock W) : c.advance .zero = (c, []) := rfl

@[simp] theorem elapsed_sleep (c : FakeClock W) (d : Duration) :
    (c.sleep d).1.elapsed = c.elapsed := rfl

@[simp] theorem elapsed_poll (c : FakeClock W) (id : SleepId) (w : W) :
    (c.poll id w).1.elapsed = c.elapsed := by
  unfold poll; split <;> rfl

@[simp] theorem elapsed_cancel (c : FakeClock W) (id : SleepId) :
    (c.cancel id).elapsed = c.elapsed := by
  unfold cancel; split <;> rfl

end FakeClock

end HostBench
