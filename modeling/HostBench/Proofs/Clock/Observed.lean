/-
  A clock as it looks from outside. Sleeps are begun, polled, given up and woken, and all that can be
  seen of this is kept in order (`Sight`), so that a run of operations leaves a clock and the sights of
  it (`Observed.run`). A clock that moves reports how many it wakes and then wakes them
  (`perform_advance`). All that an operation can do is said once (`ClockOp.does_perform`).
-/
import HostBench.Proofs.Clock.Reach
import Mathlib.Data.List.Basic

namespace HostBench

variable {W : Type}

/-! ## What is done and what is seen -/

/-- What is done with a clock and its sleeps. -/
inductive ClockOp (W : Type) where
  | sleep (d : Duration)
  | poll (id : SleepId) (w : W)
  | drop (id : SleepId)
  | advance (delta : Duration)

/-- What there is to see of a clock. -/
inductive Sight (W : Type) where
  /-- A sleep is begun when the clock has moved by `since`. -/
  | begun (since length : Duration)
  | polled (id : SleepId) (w : W) (ready : Bool)
  | dropped (id : SleepId)
  /-- The clock reports how many it is about to wake. -/
  | reported (woken : Nat)
  | woke (w : W)

namespace Sight

/-- The sleep that is begun. -/
def begun? : Sight W → Option (Duration × Duration)
  | .begun since length => some (since, length)
  | _ => none

/-- The poll of a sleep: on whose behalf, and whether it was ready. -/
def poll? (id : SleepId) : Sight W → Option (W × Bool)
  | .polled i w ready => if i = id then some (w, ready) else none
  | _ => none

/-- Whom the clock wakes. -/
def woke? : Sight W → Option W
  | .woke w => some w
  | _ => none

/-- The sleep is dropped. -/
def isDrop (id : SleepId) : Sight W → Bool
  | .dropped i => i == id
  | _ => false

/-- The sleep that is polled or dropped. -/
def subject? : Sight W → Option SleepId
  | .polled id _ _ | .dropped id => some id
  | _ => none

/-- What is seen when the clock moves: how many it reports, and whom it wakes. -/
def ofWoken (ws : List W) : List (Sight W) := .reported ws.length :: ws.map .woke

theorem mem_ofWoken {ws : List W} {x : Sight W} :
    x ∈ ofWoken ws ↔ x = .reported ws.length ∨ ∃ w ∈ ws, .woke w = x := by
  unfold ofWoken
  rw [List.mem_cons, List.mem_map]

theorem filterMap_ofWoken {β : Type} {f : Sight W → Option β} {ws : List W}
    (reported : f (.reported ws.length) = none) (woken : ∀ w ∈ ws, f (.woke w) = none) :
    (ofWoken ws).filterMap f = [] := by
  refine List.filterMap_eq_nil_iff.mpr fun x hx => ?_
  rcases mem_ofWoken.mp hx with rfl | ⟨w, hw, rfl⟩
  · exact reported
  · exact woken w hw

end Sight

/-- A clock and all that was seen of it, the oldest first. -/
structure Observed (W : Type) where
  clock : FakeClock W
  sights : List (Sight W)

namespace Observed

/-- A clock that has not moved, and of which nothing was seen. -/
def start (origin : Instant) : Observed W := ⟨.withOrigin origin, []⟩

/-- The sleeps in the order of their creation: when they were begun, and for how long. -/
def begun (o : Observed W) : List (Duration × Duration) := o.sights.filterMap Sight.begun?

/-- The sleep was dropped. -/
def isDropped (o : Observed W) (id : SleepId) : Bool := o.sights.any (Sight.isDrop id)

/-- The last poll of a sleep: on whose behalf, and whether it was ready. -/
def lastPoll (o : Observed W) (id : SleepId) : Option (W × Bool) :=
  (o.sights.filterMap (Sight.poll? id)).getLast?

/-- There is such a sleep, and it was not dropped. -/
def isHeld (o : Observed W) (id : SleepId) : Bool := decide (id < o.begun.length) && !o.isDropped id

/-- Where the clock is. -/
def place : Place (Observed W) (FakeClock W) := ⟨Observed.clock, fun c o => { o with clock := c }⟩

/-- Something is seen. -/
def see (x : Sight W) : StateM (Observed W) Unit := fun o => ((), { o with sights := o.sights ++ [x] })

end Observed

/-- Does something with the clock. Only a sleep that is held can be polled or dropped. -/
def ClockOp.perform (op : ClockOp W) (o : Observed W) : Observed W :=
  match op with
  | .sleep d => ⟨(o.clock.sleep d).1, o.sights ++ [.begun o.clock.elapsed d]⟩
  | .poll id w =>
    if o.isHeld id then ⟨(o.clock.poll id w).1, o.sights ++ [.polled id w (o.clock.poll id w).2]⟩
    else o
  | .drop id => if o.isHeld id then ⟨o.clock.cancel id, o.sights ++ [.dropped id]⟩ else o
  | .advance delta =>
    (FakeClock.advanceAt Observed.place (fun woken => Observed.see (.reported woken))
      (fun w => Observed.see (.woke w)) delta o).2

namespace Observed

/-- Does one thing after the other. -/
def run (ops : List (ClockOp W)) (o : Observed W) : Observed W :=
  ops.foldl (fun o op => op.perform o) o

theorem run_append (ops ops' : List (ClockOp W)) (o : Observed W) :
    run (ops ++ ops') o = run ops' (run ops o) := List.foldl_append

theorem run_cons (op : ClockOp W) (ops : List (ClockOp W)) (o : Observed W) :
    run (op :: ops) o = run ops (op.perform o) := rfl

theorem perform_sleep (d : Duration) (o : Observed W) :
    (ClockOp.sleep d).perform o = ⟨(o.clock.sleep d).1, o.sights ++ [.begun o.clock.elapsed d]⟩ := rfl

theorem perform_poll {o : Observed W} {id : SleepId} (held : o.isHeld id = true) (w : W) :
    (ClockOp.poll id w).perform o =
      ⟨(o.clock.poll id w).1, o.sights ++ [.polled id w (o.clock.poll id w).2]⟩ := if_pos held

theorem perform_poll_of_not_held {o : Observed W} {id : SleepId} (lost : ¬ o.isHeld id = true)
    (w : W) : (ClockOp.poll id w).perform o = o := if_neg lost

theorem perform_drop {o : Observed W} {id : SleepId} (held : o.isHeld id = true) :
    (ClockOp.drop id).perform o = ⟨o.clock.cancel id, o.sights ++ [.dropped id]⟩ := if_pos held

theorem perform_drop_of_not_held {o : Observed W} {id : SleepId} (lost : ¬ o.isHeld id = true) :
    (ClockOp.drop id).perform o = o := if_neg lost

/-! ## What one sight adds -/

variable {o : Observed W} {id : SleepId}

theorem begun_append (c : FakeClock W) (o : Observed W) (xs : List (Sight W)) :
    (⟨c, o.sights ++ xs⟩ : Observed W).begun = o.begun ++ xs.filterMap Sight.begun? :=
  List.filterMap_append

theorem isDropped_append (c : FakeClock W) (o : Observed W) (xs : List (Sight W)) (id : SleepId) :
    (⟨c, o.sights ++ xs⟩ : Observed W).isDropped id =
      (o.isDropped id || xs.any (Sight.isDrop id)) := List.any_append

theorem lastPoll_append (c : FakeClock W) (o : Observed W) (xs : List (Sight W)) (id : SleepId) :
    (⟨c, o.sights ++ xs⟩ : Observed W).lastPoll id =
      ((xs.filterMap (Sight.poll? id)).getLast?).or (o.lastPoll id) := by
  unfold lastPoll
  rw [List.filterMap_append, List.getLast?_append]

/-! ## What an advance comes to -/

theorem forM_see (ws : List W) (o : Observed W) :
    (ws.forM (fun w => see (.woke w)) : StateM (Observed W) PUnit) o =
      (⟨⟩, ⟨o.clock, o.sights ++ ws.map .woke⟩) := by
  induction ws generalizing o with
  | nil =>
    rw [List.map_nil, List.append_nil]
    rfl
  | cons w ws ih =>
    have first : (List.forM (w :: ws) (fun w => see (.woke w)) : StateM (Observed W) PUnit) o =
        (ws.forM (fun w => see (.woke w)) : StateM (Observed W) PUnit)
          ⟨o.clock, o.sights ++ [.woke w]⟩ := rfl
    rw [first, ih, List.map_cons, List.append_assoc]
    rfl

theorem perform_advance_zero (o : Observed W) : (ClockOp.advance .zero).perform o = o := rfl

/-- A clock that moves reports how many it wakes, and wakes them after that. -/
theorem perform_advance {delta : Duration} (moves : delta.isZero = false) (o : Observed W) :
    (ClockOp.advance delta).perform o =
      ⟨(o.clock.advance delta).1, o.sights ++ Sight.ofWoken (o.clock.advance delta).2⟩ := by
  have moved : (ClockOp.advance delta).perform o =
      (((o.clock.advance delta).2.forM (fun w => see (.woke w)) : StateM (Observed W) PUnit)
        ⟨(o.clock.advance delta).1,
          o.sights ++ [.reported (o.clock.advance delta).2.length]⟩).2 := by
    unfold ClockOp.perform FakeClock.advanceAt
    simp only [if_neg (Bool.eq_false_iff.mp moves)]
    rfl
  rw [moved, forM_see, List.append_assoc]
  rfl

end Observed

/-! ## What an operation can do -/

/-- What comes of an operation: a sleep is begun, polled or dropped, the clock moves, or nothing at all
is done. -/
inductive ClockOp.Does (o : Observed W) : ClockOp W → Observed W → Prop
  | sleep (d : Duration) :
      Does o (.sleep d) ⟨(o.clock.sleep d).1, o.sights ++ [.begun o.clock.elapsed d]⟩
  | poll {id : SleepId} (held : o.isHeld id = true) (w : W) :
      Does o (.poll id w)
        ⟨(o.clock.poll id w).1, o.sights ++ [.polled id w (o.clock.poll id w).2]⟩
  | drop {id : SleepId} (held : o.isHeld id = true) :
      Does o (.drop id) ⟨o.clock.cancel id, o.sights ++ [.dropped id]⟩
  | advance {delta : Duration} (moves : delta.isZero = false) :
      Does o (.advance delta)
        ⟨(o.clock.advance delta).1, o.sights ++ Sight.ofWoken (o.clock.advance delta).2⟩
  | nothing {op : ClockOp W} (idle : ∀ delta, op = .advance delta → delta.isZero = true) : Does o op o

theorem ClockOp.does_perform (op : ClockOp W) (o : Observed W) : op.Does o (op.perform o) := by
  cases op with
  | sleep d => exact .sleep d
  | poll id w =>
    by_cases held : o.isHeld id = true
    · rw [Observed.perform_poll held]
      exact .poll held w
    · rw [Observed.perform_poll_of_not_held held]
      exact .nothing fun _ same => by cases same
  | drop id =>
    by_cases held : o.isHeld id = true
    · rw [Observed.perform_drop held]
      exact .drop held
    · rw [Observed.perform_drop_of_not_held held]
      exact .nothing fun _ same => by cases same
  | advance delta =>
    cases still : delta.isZero with
    | true =>
      have idle : (ClockOp.advance delta).perform o = o := by
        rw [Duration.isZero_iff.mp still, Observed.perform_advance_zero]
      rw [idle]
      exact .nothing fun _ same => by cases same; exact still
    | false =>
      rw [Observed.perform_advance still]
      exact .advance still

end HostBench
