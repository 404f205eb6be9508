/-
  Wakers that use the clock again. Whoever is woken may do anything with the clock that has just moved:
  move it further, so that others are woken inside of the first wake-up, or begin, poll and drop sleeps,
  among them those whose wakers are still to run. What a waker does is an `Errand`, and `wakeUp` runs it
  inside of the move that woke it.

  A clock moves before the first waker runs, and whom it wakes is fixed by then. So a move with all that
  is nested in it comes to the same as all these operations one after the other
  (`Scene.nesting_is_sequencing`). For that each part of a run is shown to unfold into operations in
  sequence (`Scene.Unfolds`): an errand if what it wakes does (`unfolds_run`), a waker by induction on
  how deep wakers are nested in it (`unfolds_wakeUp`).
-/
import HostBench.Proofs.Clock.Observed

namespace HostBench

variable {E W : Type}

/-! ## Errands -/

/-- What someone does with a clock, one step after the other. Each step may depend on all that the
earlier ones have shown. -/
inductive Errand (E W : Type) where
  | done
  /-- Changes what lies around the clock, having seen it. -/
  | act (change : E → E) (next : E → Errand E W)
  | read (next : FakeClock W → Errand E W)
  | sleep (d : Duration) (next : SleepId → Errand E W)
  | poll (id : SleepId) (w : W) (next : Bool → Errand E W)
  | drop (id : SleepId) (next : Errand E W)
  | advance (delta : Duration) (next : Errand E W)

/-- What happens around a clock. -/
inductive Happening (W : Type) where
  | did (op : ClockOp W)
  | read
  /-- The clock reports how many it is about to wake. -/
  | reported (woken : Nat)
  /-- A waker begins to run, inside of so many others. -/
  | began (depth : Nat) (w : W)
  | ended (depth : Nat) (w : W)

/-- Something that happens, and the clock as it is then. -/
structure Occurrence (W : Type) where
  clock : FakeClock W
  what : Happening W

/-- A clock with what lies around it, and all that has happened, the oldest first. -/
structure Scene (E W : Type) where
  clock : FakeClock W
  around : E
  log : List (Occurrence W)
  /-- A waker did not run, because wakers were nested too deep. -/
  cut : Bool

namespace Happening

def op? : Happening W → Option (ClockOp W)
  | .did op => some op
  | _ => none

/-- How deep the waker is nested that begins or ends. -/
def depth? : Happening W → Option Nat
  | .began depth _ | .ended depth _ => some depth
  | _ => none

end Happening

/-- What becomes of a clock when something is done with it, and whoever is woken does nothing. -/
def ClockOp.change : ClockOp W → FakeClock W → FakeClock W
  | .sleep d, c => (c.sleep d).1
  | .poll id w, c => (c.poll id w).1
  | .drop id, c => c.cancel id
  | .advance delta, c => (c.advance delta).1

/-- What becomes of a clock when one thing is done after the other. -/
def FakeClock.inSequence (c : FakeClock W) (ops : List (ClockOp W)) : FakeClock W :=
  ops.foldl (fun c op => op.change c) c

/-- What was done with the clock, in order. -/
def operations (log : List (Occurrence W)) : List (ClockOp W) := log.filterMap (·.what.op?)

/-- The wakers that begin and end at one depth, in order. -/
def wakersAt (depth : Nat) (log : List (Occurrence W)) : List (Happening W) :=
  (log.map (·.what)).filter fun x => x.depth? == some depth

namespace Scene

/-- Where the clock is. -/
def place : Place (Scene E W) (FakeClock W) := ⟨Scene.clock, fun c s => { s with clock := c }⟩

/-- Something happens. -/
def noting (s : Scene E W) (x : Happening W) : Scene E W := { s with log := s.log ++ [⟨s.clock, x⟩] }

/-- Moves the clock, and `wake` is what those do who are woken. -/
def move (wake : W → StateM (Scene E W) Unit) (delta : Duration) : StateM (Scene E W) Unit :=
  FakeClock.advanceAt place (fun woken s => ((), s.noting (.reported woken))) wake delta

end Scene

/-- Runs an errand. -/
def Errand.run (wake : W → StateM (Scene E W) Unit) : Errand E W → StateM (Scene E W) Unit
  | .done => fun s => ((), s)
  | .act change next => fun s => (next s.around).run wake { s with around := change s.around }
  | .read next => fun s => (next s.clock).run wake (s.noting .read)
  | .sleep d next => fun s => (next (s.clock.sleep d).2).run wake
    { s.noting (.did (.sleep d)) with clock := (s.clock.sleep d).1 }
  | .poll id w next => fun s => (next (s.clock.poll id w).2).run wake
    { s.noting (.did (.poll id w)) with clock := (s.clock.poll id w).1 }
  | .drop id next => fun s => next.run wake
    { s.noting (.did (.drop id)) with clock := s.clock.cancel id }
  | .advance delta next => fun s =>
    next.run wake (Scene.move wake delta (s.noting (.did (.advance delta)))).2

/-- Runs the errand of a waker that is nested in `depth` others. In it there is room for so many more
to be nested; one for which there is none is not run. -/
def wakeUp (errand : W → Errand E W) : (room depth : Nat) → W → StateM (Scene E W) Unit
  | 0, _, _ => fun s => ((), { s with cut := true })
  | room + 1, depth, w => fun s =>
    ((), ((errand w).run (wakeUp errand room (depth + 1)) (s.noting (.began depth w))).2.noting
      (.ended depth w))

/-! ## Operations in sequence -/

theorem operations_append (l m : List (Occurrence W)) :
    operations (l ++ m) = operations l ++ operations m := List.filterMap_append

theorem wakersAt_append (depth : Nat) (l m : List (Occurrence W)) :
    wakersAt depth (l ++ m) = wakersAt depth l ++ wakersAt depth m := by
  simp [wakersAt]

theorem FakeClock.inSequence_append (c : FakeClock W) (ops ops' : List (ClockOp W)) :
    c.inSequence (ops ++ ops') = (c.inSequence ops).inSequence ops' := List.foldl_append

namespace Scene

/-- From one scene to the next some things have happened. What was done with the clock was done in
sequence, each time with the clock that the earlier operations had left; no waker has run at a lower
depth; and what was cut stays so. -/
structure Unfolds (depth : Nat) (s s' : Scene E W) (l : List (Occurrence W)) : Prop where
  log_eq : s'.log = s.log ++ l
  clock_eq : s'.clock = s.clock.inSequence (operations l)
  met : ∀ i m, l[i]? = some m → m.clock = s.clock.inSequence (operations (l.take i))
  deep : ∀ m ∈ l, ∀ d, m.what.depth? = some d → depth ≤ d
  cut_mono : s.cut = true → s'.cut = true

variable {depth : Nat} {s s' s'' : Scene E W} {l m : List (Occurrence W)}

theorem Unfolds.refl (s : Scene E W) : Unfolds depth s s [] where
  log_eq := (List.append_nil _).symm
  clock_eq := rfl
  met i m found := by simp at found
  deep m hm := absurd hm List.not_mem_nil
  cut_mono h := h

theorem Unfolds.trans (first : Unfolds depth s s' l) (second : Unfolds depth s' s'' m) :
    Unfolds depth s s'' (l ++ m) where
  log_eq := by rw [second.log_eq, first.log_eq, List.append_assoc]
  clock_eq := by
    rw [second.clock_eq, first.clock_eq, operations_append, FakeClock.inSequence_append]
  met := by
    intro i x found
    rcases Nat.lt_or_ge i l.length with before | after
    · rw [List.getElem?_append_left before] at found
      rw [List.take_append_of_le_length (Nat.le_of_lt before)]
      exact first.met i x found
    · rw [List.getElem?_append_right after] at found
      rw [List.take_append, List.take_of_length_le after, operations_append,
        FakeClock.inSequence_append, ← first.clock_eq]
      exact second.met _ x found
  deep := by
    intro x hx
    rcases List.mem_append.mp hx with hx | hx
    · exact first.deep x hx
    · exact second.deep x hx
  cut_mono h := second.cut_mono (first.cut_mono h)

/-- What lies deeper lies deep enough. -/
theorem Unfolds.shallow {deeper : Nat} (h : Unfolds deeper s s' l) (le : depth ≤ deeper) :
    Unfolds depth s s' l :=
  { h with deep := fun m hm d hd => Nat.le_trans le (h.deep m hm d hd) }

/-- A single thing happens. -/
theorem Unfolds.single {x : Happening W} (log_eq : s'.log = s.log ++ [⟨s.clock, x⟩])
    (clock_eq : s'.clock = s.clock.inSequence (operations [⟨s.clock, x⟩]))
    (deep : ∀ d, x.depth? = some d → depth ≤ d) (cut_eq : s'.cut = s.cut) :
    Unfolds depth s s' [⟨s.clock, x⟩] where
  log_eq := log_eq
  clock_eq := clock_eq
  met := by
    intro i m found
    cases i with
    | zero =>
      cases found
      rfl
    | succ i => simp at found
  deep := by
    intro m hm d hd
    rw [List.mem_singleton.mp hm] at hd
    exact deep d hd
  cut_mono h := by rw [cut_eq]; exact h

theorem unfolds_noting (depth : Nat) (s : Scene E W) (x : Happening W) (idle : x.op? = none)
    (deep : ∀ d, x.depth? = some d → depth ≤ d) :
    Unfolds depth s (s.noting x) [⟨s.clock, x⟩] := by
  have nothing : operations [⟨s.clock, x⟩] = [] := by simp [operations, idle]
  exact .single rfl (by rw [nothing]; rfl) deep rfl

theorem unfolds_did (depth : Nat) (s : Scene E W) (op : ClockOp W) :
    Unfolds depth s { s.noting (.did op) with clock := op.change s.clock }
      [⟨s.clock, .did op⟩] :=
  .single rfl rfl (fun _ h => by cases h) rfl

/-! ## Nested runs unfold -/

/-- The clock has moved and those to be woken are fixed before the first of them runs. -/
theorem move_of_moves (wake : W → StateM (Scene E W) Unit) {delta : Duration}
    (moves : delta.isZero = false) (s : Scene E W) :
    move wake delta s = ((s.clock.advance delta).2.forM wake : StateM (Scene E W) PUnit)
      ({ s with clock := (s.clock.advance delta).1 }.noting
        (.reported (s.clock.advance delta).2.length)) := by
  unfold move FakeClock.advanceAt
  rw [if_neg (by simp [moves])]
  rfl

theorem move_zero (wake : W → StateM (Scene E W) Unit) (s : Scene E W) :
    move wake .zero s = ((), s) := rfl

theorem forM_cons (wake : W → StateM (Scene E W) Unit) (w : W) (ws : List W) (s : Scene E W) :
    ((w :: ws).forM wake : StateM (Scene E W) PUnit) s = ws.forM wake (wake w s).2 := rfl

variable {wake wake' : W → StateM (Scene E W) Unit}

theorem unfolds_forM (inner : ∀ w s, ∃ l, Unfolds depth s (wake w s).2 l) (ws : List W)
    (s : Scene E W) :
    ∃ l, Unfolds depth s ((ws.forM wake : StateM (Scene E W) PUnit) s).2 l := by
  induction ws generalizing s with
  | nil => exact ⟨[], .refl s⟩
  | cons w ws ih =>
    obtain ⟨l, first⟩ := inner w s
    obtain ⟨m, rest⟩ := ih (wake w s).2
    exact ⟨l ++ m, first.trans rest⟩

/-- An errand unfolds, if those that it wakes do. -/
theorem unfolds_run (inner : ∀ w s, ∃ l, Unfolds depth s (wake w s).2 l) (errand : Errand E W)
    (s : Scene E W) : ∃ l, Unfolds depth s (errand.run wake s).2 l := by
  induction errand generalizing s with
  | done => exact ⟨[], .refl s⟩
  | act change next ih =>
    obtain ⟨l, rest⟩ := ih s.around { s with around := change s.around }
    exact ⟨l, { rest with }⟩
  | read next ih =>
    obtain ⟨l, rest⟩ := ih s.clock (s.noting .read)
    exact ⟨_, (unfolds_noting depth s .read rfl (by simp [Happening.depth?])).trans rest⟩
  | sleep d next ih =>
    obtain ⟨l, rest⟩ := ih (s.clock.sleep d).2
      { s.noting (.did (.sleep d)) with clock := (s.clock.sleep d).1 }
    exact ⟨_, (unfolds_did depth s (.sleep d)).trans rest⟩
  | poll id w next ih =>
    obtain ⟨l, rest⟩ := ih (s.clock.poll id w).2
      { s.noting (.did (.poll id w)) with clock := (s.clock.poll id w).1 }
    exact ⟨_, (unfolds_did depth s (.poll id w)).trans rest⟩
  | drop id next ih =>
    obtain ⟨l, rest⟩ := ih { s.noting (.did (.drop id)) with clock := s.clock.cancel id }
    exact ⟨_, (unfolds_did depth s (.drop id)).trans rest⟩
  | advance delta next ih =>
    have did := unfolds_did depth s (.advance delta)
    cases still : delta.isZero with
    | true =>
      have zero : delta = .zero := Duration.isZero_iff.mp still
      subst zero
      obtain ⟨m, rest⟩ := ih (s.noting (.did (.advance .zero)))
      exact ⟨_, did.trans rest⟩
    | false =>
      -- the move itself is one operation, and whoever is woken comes after it
      show ∃ l, Unfolds depth s
        (next.run wake (move wake delta (s.noting (.did (.advance delta)))).2).2 l
      rw [move_of_moves wake still]
      have reported := unfolds_noting depth
        { s.noting (.did (.advance delta)) with clock := (s.clock.advance delta).1 }
        (.reported (s.clock.advance delta).2.length) rfl (by simp [Happening.depth?])
      obtain ⟨l, woken⟩ := unfolds_forM inner (s.clock.advance delta).2
        ({ s.noting (.did (.advance delta)) with clock := (s.clock.advance delta).1 }.noting
          (.reported (s.clock.advance delta).2.length))
      obtain ⟨m, rest⟩ := ih _
      exact ⟨_, did.trans (reported.trans (woken.trans rest))⟩

/-! ## Each waker runs once -/

/-- What was not cut in the end was not cut before. -/
theorem Unfolds.uncut (h : Unfolds depth s s' l) (whole : s'.cut = false) : s.cut = false := by
  cases before : s.cut with
  | false => rfl
  | true => rw [h.cut_mono before] at whole; cases whole

theorem Unfolds.wakersAt_eq_nil {deeper : Nat} (h : Unfolds deeper s s' l) (lt : depth < deeper) :
    wakersAt depth l = [] := by
  refine List.filter_eq_nil_iff.mpr fun x hx same => ?_
  obtain ⟨m, hm, rfl⟩ := List.mem_map.mp hx
  have bound := h.deep m hm depth (by simpa using same)
  omega

/-- A waker begins, does its errand and ends, and no other one does at its depth. -/
theorem unfolds_framed (inner : ∀ w s, ∃ l, Unfolds (depth + 1) s (wake w s).2 l)
    (errand : Errand E W) (w : W) (s : Scene E W) :
    ∃ l, Unfolds depth s
        ((errand.run wake (s.noting (.began depth w))).2.noting (.ended depth w)) l ∧
      wakersAt depth l = [.began depth w, .ended depth w] := by
  obtain ⟨l, inside⟩ := unfolds_run inner errand (s.noting (.began depth w))
  have begins := unfolds_noting depth s (.began depth w) rfl (by simp [Happening.depth?])
  have ends := unfolds_noting depth (errand.run wake (s.noting (.began depth w))).2
    (.ended depth w) rfl (by simp [Happening.depth?])
  refine ⟨_, begins.trans ((inside.shallow (Nat.le_succ depth)).trans ends), ?_⟩
  rw [wakersAt_append, wakersAt_append, inside.wakersAt_eq_nil (Nat.lt_succ_self depth)]
  simp [wakersAt, Happening.depth?]

theorem unfolds_wakeUp (errand : W → Errand E W) (room depth : Nat) (w : W) (s : Scene E W) :
    ∃ l, Unfolds depth s (wakeUp errand room depth w s).2 l := by
  induction room generalizing depth w s with
  | zero => exact ⟨[], { Unfolds.refl s with cut_mono := fun _ => rfl }⟩
  | succ room ih =>
    obtain ⟨l, unfolds, _⟩ := unfolds_framed (ih (depth + 1)) (errand w) w s
    exact ⟨l, unfolds⟩

/-- A waker for which there is room runs once. -/
theorem unfolds_once (errand : W → Errand E W) (room depth : Nat) (w : W) (s : Scene E W)
    (whole : (wakeUp errand room depth w s).2.cut = false) :
    ∃ l, Unfolds depth s (wakeUp errand room depth w s).2 l ∧
      wakersAt depth l = [.began depth w, .ended depth w] := by
  cases room with
  | zero => cases whole
  | succ room => exact unfolds_framed (unfolds_wakeUp errand room (depth + 1)) (errand w) w s

theorem unfolds_each (errand : W → Errand E W) (room depth : Nat) (ws : List W) (s : Scene E W)
    (whole : ((ws.forM (wakeUp errand room depth) : StateM (Scene E W) PUnit) s).2.cut = false) :
    ∃ l, Unfolds depth s ((ws.forM (wakeUp errand room depth) : StateM (Scene E W) PUnit) s).2 l ∧
      wakersAt depth l = ws.flatMap fun w => [.began depth w, .ended depth w] := by
  induction ws generalizing s with
  | nil => exact ⟨[], .refl s, rfl⟩
  | cons w ws ih =>
    obtain ⟨m, rest, each⟩ := ih (wakeUp errand room depth w s).2 whole
    obtain ⟨l, first, once⟩ := unfolds_once errand room depth w s (rest.uncut whole)
    refine ⟨l ++ m, first.trans rest, ?_⟩
    rw [wakersAt_append, once, each]
    rfl

/-! ## How deep wakers are nested makes no difference -/

/-- Whatever is not cut is the same with other wakers that agree with these where they are not cut. -/
theorem forM_of_agree (inner : ∀ w s, ∃ l, Unfolds depth s (wake w s).2 l)
    (agree : ∀ w s, (wake w s).2.cut = false → wake' w s = wake w s) (ws : List W) (s : Scene E W)
    (whole : ((ws.forM wake : StateM (Scene E W) PUnit) s).2.cut = false) :
    (ws.forM wake' : StateM (Scene E W) PUnit) s = ws.forM wake s := by
  induction ws generalizing s with
  | nil => rfl
  | cons w ws ih =>
    rw [forM_cons] at whole
    obtain ⟨l, rest⟩ := unfolds_forM inner ws (wake w s).2
    have first := agree w s (rest.uncut whole)
    rw [forM_cons, forM_cons, first]
    exact ih _ whole

theorem move_of_agree (inner : ∀ w s, ∃ l, Unfolds depth s (wake w s).2 l)
    (agree : ∀ w s, (wake w s).2.cut = false → wake' w s = wake w s) (delta : Duration)
    (s : Scene E W) (whole : (move wake delta s).2.cut = false) :
    move wake' delta s = move wake delta s := by
  cases still : delta.isZero with
  | true =>
    have zero : delta = .zero := Duration.isZero_iff.mp still
    rw [zero, move_zero, move_zero]
  | false =>
    rw [move_of_moves wake still] at whole ⊢
    rw [move_of_moves wake' still]
    exact forM_of_agree inner agree _ _ whole

theorem run_of_agree (inner : ∀ w s, ∃ l, Unfolds depth s (wake w s).2 l)
    (agree : ∀ w s, (wake w s).2.cut = false → wake' w s = wake w s) (errand : Errand E W)
    (s : Scene E W) (whole : (errand.run wake s).2.cut = false) :
    errand.run wake' s = errand.run wake s := by
  induction errand generalizing s with
  | done => rfl
  | act change next ih => exact ih _ _ whole
  | read next ih => exact ih _ _ whole
  | sleep d next ih => exact ih _ _ whole
  | poll id w next ih => exact ih _ _ whole
  | drop id next ih => exact ih _ whole
  | advance delta next ih =>
    obtain ⟨l, rest⟩ := unfolds_run inner next (move wake delta (s.noting (.did (.advance delta)))).2
    have moved := move_of_agree inner agree delta _ (rest.uncut whole)
    show next.run wake' (move wake' delta (s.noting (.did (.advance delta)))).2 = _
    rw [moved]
    exact ih _ whole

/-- With more room than is needed all is the same. -/
theorem wakeUp_of_more (errand : W → Errand E W) (more room depth : Nat) (w : W) (s : Scene E W)
    (whole : (wakeUp errand room depth w s).2.cut = false) :
    wakeUp errand (room + more) depth w s = wakeUp errand room depth w s := by
  induction room generalizing depth w s with
  | zero => cases whole
  | succ room ih =>
    have same := run_of_agree (unfolds_wakeUp errand room (depth + 1)) (ih (depth + 1)) (errand w)
      (s.noting (.began depth w)) whole
    rw [show room + 1 + more = (room + more) + 1 by omega]
    simp only [wakeUp]
    rw [same]

/-! ## Nesting and sequencing -/

/-- What is to be said of a move of the clock in which all those have run who were woken, with `later`
for what has happened since the move was reported. The move is nested in `depth` wakers. -/
structure Sequenced (depth : Nat) (delta : Duration) (s s' : Scene E W) (later : List (Occurrence W)) :
    Prop where
  /-- Where the clock is, which sleeps are over and how many are to be woken is fixed first. -/
  log_eq : s'.log = s.log ++ ⟨(s.clock.advance delta).1, .reported (s.clock.advance delta).2.length⟩ ::
    later
  /-- Those who were to be woken then have run, each once and in this order. -/
  wakers_eq : wakersAt depth later =
    (s.clock.advance delta).2.flatMap fun w => [.began depth w, .ended depth w]
  /-- Whatever happened, happened with the clock that the operations before it leave one after the
  other, -/
  met : ∀ i m, later[i]? = some m →
    m.clock = s.clock.inSequence (.advance delta :: operations (later.take i))
  /-- and so does all of it leave the clock. -/
  clock_eq : s'.clock = s.clock.inSequence (.advance delta :: operations later)

/-- A move of the clock with all that is nested in it, if it comes to an end, is the same as the move
alone and then all that those did who were woken, one after the other. More room to nest would change
nothing. -/
theorem nesting_is_sequencing (errand : W → Errand E W) (room depth : Nat) {delta : Duration}
    (moves : delta.isZero = false) (s : Scene E W)
    (whole : (move (wakeUp errand room depth) delta s).2.cut = false) :
    (∃ later, Sequenced depth delta s (move (wakeUp errand room depth) delta s).2 later) ∧
      ∀ more, move (wakeUp errand (room + more) depth) delta s =
        move (wakeUp errand room depth) delta s := by
  constructor
  · rw [move_of_moves _ moves] at whole ⊢
    obtain ⟨later, unfolds, each⟩ := unfolds_each errand room depth _ _ whole
    refine ⟨later, ?_, each, unfolds.met, unfolds.clock_eq⟩
    rw [unfolds.log_eq]
    exact List.append_assoc _ _ _
  · intro more
    exact move_of_agree (unfolds_wakeUp errand room depth)
      (fun w s => wakeUp_of_more errand more room depth w s) delta s whole

/-! ## A row of dominoes -/

namespace Dominoes

/-- The first gives up the sleep of the second and moves the clock on, which wakes the third; the third
begins a sleep of its own. -/
def errand : Nat → Errand Unit Nat
  | 0 => .drop 1 (.advance (.ofNanos 1) .done)
  | 1 => .read fun c => if c.pendingSleepers = 1 then .advance (.ofNanos 5) .done else .done
  | _ => .sleep (.ofNanos 2) fun id => .poll id 0 fun _ => .done

/-- Three sleep, and two of them are due at the same time. -/
def start : Scene Unit Nat where
  clock := FakeClock.inSequence (.withOrigin default)
    [.sleep (.ofNanos 1), .sleep (.ofNanos 1), .sleep (.ofNanos 2), .poll 0 0, .poll 1 1, .poll 2 2]
  around := ()
  log := []
  cut := false

end Dominoes

theorem dominoes_in_sequence :
    (Duration.ofNanos 1).isZero = false ∧
      (move (wakeUp Dominoes.errand 3 0) (.ofNanos 1) Dominoes.start).2.cut = false ∧
      (∃ later, Sequenced 0 (.ofNanos 1) Dominoes.start
        (move (wakeUp Dominoes.errand 3 0) (.ofNanos 1) Dominoes.start).2 later) ∧
      ∀ more, move (wakeUp Dominoes.errand (3 + more) 0) (.ofNanos 1) Dominoes.start =
        move (wakeUp Dominoes.errand 3 0) (.ofNanos 1) Dominoes.start := by
  have moves : (Duration.ofNanos 1).isZero = false := by decide
  have whole : (move (wakeUp Dominoes.errand 3 0) (.ofNanos 1) Dominoes.start).2.cut = false := by
    decide +kernel
  exact ⟨moves, whole, nesting_is_sequencing Dominoes.errand 3 0 moves Dominoes.start whole⟩

end Scene

end HostBench
