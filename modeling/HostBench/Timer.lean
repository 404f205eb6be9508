/-
  A timer that moves by itself. It stands still while anyone has something to do, and then moves on
  by strides, but never past an alarm (`stop_bounds`). Alarms of one point go off in the order in
  which they were set, and none goes off before its time (`mem_alarms_ring`).

  Waits take turns. In one turn only so many of them may end at once: whoever has used up that
  budget has to let the others go first.
-/
import HostBench.Duration

namespace HostBench

/-- A point of the timer, in milliseconds. -/
abbrev Millis := Nat

/-- The length of time between two points of the timer. -/
def Millis.since (now start : Millis) : Duration := .ofMillis (now - start)

/-- An alarm: its number, the point at which it goes off, and whom it wakes. -/
structure Alarm (W : Type) where
  id : Nat
  due : Millis
  waker : W

/-- A wait for a point of the timer, and the number of its alarm once that is set. -/
structure Pause where
  due : Millis
  alarm : Option Nat

/-- A timer that wakes `W`s. -/
structure Timer (W : Type) where
  now : Millis
  /-- The alarms that have not gone off, in the order in which they were set. -/
  alarms : List (Alarm W)
  /-- The number of the next alarm. -/
  next : Nat
  /-- How many waits may still end at once in this turn; there is no bound outside of turns. -/
  budget : Option Nat
  /-- Who asked in vain since the budget was used up, in order. -/
  deferred : List W

namespace Timer

variable {W : Type}

/-- A timer at its first point. -/
def start : Timer W := ⟨0, [], 0, none, []⟩

/-! ## Pauses -/

/-- The longest pause: thirty years. -/
def longestPause : Duration := .ofSeconds (30 * 365 * 86400)

/-- A pause that begins now. It is over at the first whole millisecond at or after its end, and at
the end of the longest pause at the latest. -/
def pause (t : Timer W) (d : Duration) : Pause :=
  ⟨t.now + Nat.min d.toMillisUp longestPause.toMillisUp, none⟩

/-- The end of a limit that begins now. A limit that leads past the end of the time line never
ends. -/
def limit (t : Timer W) (d : Duration) : Option Pause :=
  if d.seconds < 9223372036854775808 then some ⟨t.now + d.toMillisUp, none⟩ else none

/-- Looks whether a pause is over. If not, its alarm wakes `w`, whoever asked before. -/
def look (t : Timer W) (p : Pause) (w : W) : Timer W × Pause × Bool :=
  match p.alarm with
  | some id =>
    if t.alarms.any (·.id == id) then
      ({ t with alarms := t.alarms.map fun a => if a.id == id then { a with waker := w } else a },
        p, false)
    else (t, p, true)
  | none =>
    if p.due ≤ t.now then (t, p, true)
    else ({ t with alarms := t.alarms ++ [⟨t.next, p.due, w⟩], next := t.next + 1 },
      { p with alarm := some t.next }, false)

/-- Gives up a pause; its alarm does not go off any more. -/
def cancel (t : Timer W) (p : Pause) : Timer W :=
  match p.alarm with
  | some id => { t with alarms := t.alarms.filter (·.id != id) }
  | none => t

/-! ## Turns -/

/-- How many waits may end at once in a turn. -/
def turnBudget : Nat := 128

/-- The budget of the turn is used up. -/
def exhausted (t : Timer W) : Bool := t.budget == some 0

/-- A wait has ended at once. -/
def spend (t : Timer W) : Timer W := { t with budget := t.budget.map (· - 1) }

/-- Puts `w` down for the next turn, unless it was the last to be put down. -/
def defer [BEq W] (t : Timer W) (w : W) : Timer W :=
  if t.deferred.getLast? == some w then t else { t with deferred := t.deferred ++ [w] }

/-- Asks whether a pause is over, as far as the budget allows. -/
def poll [BEq W] (t : Timer W) (p : Pause) (w : W) : Timer W × Pause × Bool :=
  if t.exhausted then (t.defer w, p, false)
  else
    match t.look p w with
    | (t, p, true) => (t.spend, p, true)
    | (t, p, false) => (t, p, false)

/-- Asks whether a limit is up that something has just been measured against. If it was that which
used up the budget, which `fresh` says was not so before, the limit does not suffer for it. -/
def pollLimit [BEq W] (t : Timer W) (fresh : Bool) (p : Option Pause) (w : W) :
    Timer W × Option Pause × Bool :=
  match p with
  | none => (t, none, false)
  | some p =>
    let (t, p, up) := if fresh && t.exhausted then t.look p w else t.poll p w
    (t, some p, up)

/-! ## Moving on -/

/-- The strides of the timer in milliseconds, each 64 times as long as the next. -/
def strides : List Nat := [1073741824, 16777216, 262144, 4096, 64, 1]

/-- How far ahead the timer can tell points apart: 64 of its longest strides. -/
def horizon : Nat := 68719476736

/-- Where the timer stops on its way from `now` to a later point: it takes the longest strides that
lead on but not past it, and looks around where these end. On the way to a point beyond its horizon
it also stops as many whole horizons short of that place as lie in between. -/
def stop (now due : Millis) : Millis :=
  let stride := (strides.find? fun stride => decide (now / stride < due / stride)).getD 1
  let last := due / stride * stride
  last - (last - now - 1) / horizon * horizon

/-- The next point at which the timer stops. -/
def nextStop (t : Timer W) : Option Millis := (t.alarms.map fun a => stop t.now a.due).min?

/-- How many alarms go off before those that they wake come to act. -/
def batch : Nat := 32

/-- Lets the first alarms that are due go off: the timer without them, and whom they wake. -/
def ring (t : Timer W) : Timer W × List W :=
  let due := (t.alarms.filter fun a => decide (a.due ≤ t.now)).take batch
  ({ t with alarms := t.alarms.filter fun a => !due.any (·.id == a.id) }, due.map (·.waker))

/-! ## Laws -/

/-- The timer always moves on, and never past the point that it is bound for. -/
theorem stop_bounds {now due : Millis} (later : now < due) :
    now < stop now due ∧ stop now due ≤ due := by
  have bounds : ∀ last, now < last → last ≤ due →
      now < last - (last - now - 1) / horizon * horizon ∧
        last - (last - now - 1) / horizon * horizon ≤ due := fun last ahead within =>
    have whole : (last - now - 1) / horizon * horizon < last - now :=
      Nat.lt_of_le_of_lt (Nat.div_mul_le_self _ _) (Nat.sub_lt (Nat.sub_pos_of_lt ahead) Nat.one_pos)
    ⟨Nat.lt_sub_of_add_lt (Nat.add_lt_of_lt_sub' whole), Nat.le_trans (Nat.sub_le _ _) within⟩
  unfold stop
  cases found : strides.find? fun stride => decide (now / stride < due / stride) with
  | none => simpa using bounds due later (Nat.le_refl due)
  | some stride =>
    have leads : now / stride < due / stride := by simpa using List.find?_some found
    have long : 0 < stride := by
      rcases Nat.eq_zero_or_pos stride with none | some
      · rw [none, Nat.div_zero, Nat.div_zero] at leads
        exact absurd leads (Nat.lt_irrefl 0)
      · exact some
    exact bounds _ (Nat.lt_mul_of_div_lt leads long) (Nat.div_mul_le_self due stride)

/-- A pause is over at once exactly if its point is reached before its alarm is set. -/
theorem look_of_unset {t : Timer W} {p : Pause} {w : W} (unset : p.alarm = none) :
    (t.look p w).2.2 = true ↔ p.due ≤ t.now := by
  unfold look
  rw [unset]
  by_cases reached : p.due ≤ t.now <;> simp [reached]

/-- A pause that is over stays over. -/
theorem look_of_over {t : Timer W} {p : Pause} {w : W} (ended : (t.look p w).2.2 = true) :
    t.look p w = (t, p, true) := by
  unfold look at ended ⊢
  split at ended <;> split at ended <;> simp_all

theorem alarms_spend (t : Timer W) : t.spend.alarms = t.alarms := rfl

theorem alarms_defer [BEq W] (t : Timer W) (w : W) : (t.defer w).alarms = t.alarms := by
  unfold defer
  split <;> rfl

/-- Without a bound the budget plays no part. -/
theorem poll_of_unbounded [BEq W] {t : Timer W} {p : Pause} {w : W} (free : t.budget = none) :
    (t.poll p w).2 = (t.look p w).2 := by
  unfold poll exhausted
  rw [free]
  simp only [reduceCtorEq, beq_iff_eq, ↓reduceIte]
  split <;> simp_all

/-- An alarm that is not due does not go off. -/
theorem mem_alarms_ring {t : Timer W} {a : Alarm W} (known : a ∈ t.alarms) (early : t.now < a.due)
    (own : ∀ b ∈ t.alarms, b.id = a.id → b = a) : a ∈ t.ring.1.alarms := by
  unfold ring
  simp only [List.mem_filter, Bool.not_eq_true', List.any_eq_false, beq_iff_eq]
  refine ⟨known, fun b taken same => ?_⟩
  have listed := List.mem_filter.1 (List.mem_of_mem_take taken)
  have reached : b.due ≤ t.now := of_decide_eq_true listed.2
  rw [own b listed.1 same] at reached
  exact Nat.not_le_of_lt early reached

end Timer

end HostBench
