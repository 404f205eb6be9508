/-
  Who is to have a turn. Those who become ready in the course of a turn stand in one line, and those
  who arrive from elsewhere in another. A turn goes to the first in the line of the ready, and every
  so often to the first of the arrivals, so that they are not kept waiting for ever.
-/
namespace HostBench

/-- Two lines of those who are to have a turn, and how many turns have been called. -/
structure Roster where
  ready : List Nat
  arrived : List Nat
  turns : Nat

namespace Roster

/-- Nobody is to have a turn. -/
def empty : Roster := ⟨[], [], 0⟩

/-- Of how many turns one goes to the arrivals first. -/
def arrivalTurn : Nat := 31

/-- Someone stands in one of the lines. -/
def contains (r : Roster) (n : Nat) : Bool := r.ready.contains n || r.arrived.contains n

/-- Puts someone at the end of the line of the ready. -/
def addReady (r : Roster) (n : Nat) : Roster := { r with ready := r.ready ++ [n] }

/-- Puts someone at the end of the line of the arrivals. -/
def addArrival (r : Roster) (n : Nat) : Roster := { r with arrived := r.arrived ++ [n] }

/-- Calls the next turn: whose it is, if it is anyone's. -/
def call (r : Roster) : Roster × Option Nat :=
  let r := { r with turns := r.turns + 1 }
  match r.ready, r.arrived with
  | [], [] => (r, none)
  | n :: rest, [] => ({ r with ready := rest }, some n)
  | [], n :: rest => ({ r with arrived := rest }, some n)
  | n :: ready, m :: arrived =>
    if r.turns % arrivalTurn = 0 then ({ r with arrived := arrived }, some m)
    else ({ r with ready := ready }, some n)

/-- A call that is in vain means that nobody stands in line. -/
theorem call_eq_none_iff (r : Roster) : r.call.2 = none ↔ r.ready = [] ∧ r.arrived = [] := by
  unfold call
  cases r.ready <;> cases r.arrived <;> simp
  split <;> simp

/-- Whose turn it is has stood in line. -/
theorem contains_of_call {r : Roster} {n : Nat} (called : r.call.2 = some n) :
    r.contains n = true := by
  unfold call at called
  unfold contains
  cases hr : r.ready <;> cases ha : r.arrived <;> simp only [hr, ha] at called
  · cases called
  · cases called; simp
  · cases called; simp
  · split at called <;> cases called <;> simp

/-- A call takes nobody out of line but the one whose turn it is. -/
theorem length_call (r : Roster) :
    r.call.1.ready.length + r.call.1.arrived.length + r.call.2.toList.length =
      r.ready.length + r.arrived.length := by
  unfold call
  cases r.ready <;> cases r.arrived <;> simp
  split <;> simp <;> omega

end Roster

end HostBench
