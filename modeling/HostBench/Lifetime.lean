/-
  The lifetime of a host: its phase, the hooks that are to run when it stops, and those who wait for
  a phase. The phase only moves forward (`rank_beginStopping`, `rank_markStopped`), and a hook is
  accepted exactly while the host runs (`register_eq_ok_iff`).

  There is no lock on the hooks. Whoever is woken when the phase changes is handed over, and comes back
  to a lifetime that is not in use; and hooks are values, so that nothing happens when they are let go.
-/
import HostBench.Text.Dump

namespace HostBench

/-- An operation was tried on a host that has been disposed. -/
structure DisposedError where
  operation : String
  deriving DecidableEq

namespace DisposedError

/-- The error in words. -/
def message (e : DisposedError) : String :=
  "test host already disposed; `" ++ e.operation ++ "` is not permitted"

/-- The error as a dump. -/
def dump (e : DisposedError) : Dump :=
  .record "DisposedStateError" [("operation", .string e.operation)]

end DisposedError

/-- How far a host is on its way to the end. -/
inductive Phase where
  | running
  | stopping
  | stopped
  deriving DecidableEq

namespace Phase

/-- The name of a phase. -/
def text : Phase → String
  | .running => "Running"
  | .stopping => "Stopping"
  | .stopped => "Stopped"

/-- The place of a phase in the order in which they follow each other. -/
def rank : Phase → Nat
  | .running => 0
  | .stopping => 1
  | .stopped => 2

end Phase

/-- What someone waits for. -/
inductive Goal where
  | stopping
  | stopped
  deriving DecidableEq

/-- The phase is what is waited for. -/
def Goal.reachedIn : Goal → Phase → Bool
  | .stopping, p => p != .running
  | .stopped, p => p == .stopped

/-- Someone who waits, and whom the next change of the phase wakes. -/
structure Wait (W : Type) where
  goal : Goal
  waker : Option W

/-- The number of a wait among those of its lifetime, in order of creation. -/
abbrev WaitId := Nat

/-- What is to be done when the host stops. -/
structure Hook (H : Type) where
  label : String
  body : H

/-- The lifetime of a host. -/
structure Lifetime (H W : Type) where
  phase : Phase
  hooks : List (Hook H)
  waits : List (Wait W)

namespace Lifetime

variable {H W : Type}

/-- The lifetime of a new host. -/
def new : Lifetime H W := ⟨.running, [], []⟩

instance : Inhabited (Lifetime H W) := ⟨new⟩

/-- The host is about to stop or has stopped. -/
def isStopping (l : Lifetime H W) : Bool := l.phase != .running

/-- Adds a hook after the others, unless the host is about to stop. -/
def register (l : Lifetime H W) (hook : Hook H) : Except DisposedError (Lifetime H W) :=
  if l.isStopping then .error ⟨"register_on_stop"⟩
  else .ok { l with hooks := l.hooks ++ [hook] }

/-- Begins to wait for a goal. -/
def wait (l : Lifetime H W) (goal : Goal) : Lifetime H W × WaitId :=
  ({ l with waits := l.waits ++ [⟨goal, none⟩] }, l.waits.length)

/-- Asks on behalf of `w` whether the goal of a wait is reached; if not, the next change of the
phase wakes `w`. -/
def poll (l : Lifetime H W) (id : WaitId) (w : W) : Lifetime H W × Bool :=
  match l.waits[id]? with
  | none => (l, false)
  | some x =>
    if x.goal.reachedIn l.phase then (l, true)
    else ({ l with waits := l.waits.set id { x with waker := some w } }, false)

/-- Gives up waiting. -/
def cancel (l : Lifetime H W) (id : WaitId) : Lifetime H W :=
  match l.waits[id]? with
  | none => l
  | some x => { l with waits := l.waits.set id { x with waker := none } }

/-- Changes the phase; everyone who waits is woken and has to ask again. -/
def enter (l : Lifetime H W) (p : Phase) : Lifetime H W × List W :=
  ({ l with phase := p, waits := l.waits.map fun x => { x with waker := none } },
    l.waits.filterMap (·.waker))

/-- Begins to stop: the phase, if the host still runs, and the hooks, which are handed over. -/
def beginStopping (l : Lifetime H W) : Lifetime H W × List (Hook H) × List W :=
  if l.phase = .running then
    let (l', woken) := l.enter .stopping
    ({ l' with hooks := [] }, l.hooks, woken)
  else (l, [], [])

/-- Stops for good; hooks that are still held are given up. -/
def markStopped (l : Lifetime H W) : Lifetime H W × List W :=
  let (l', woken) := l.enter .stopped
  ({ l' with hooks := [] }, woken)

/-- The lifetime as a dump. -/
def dump (l : Lifetime H W) : Dump :=
  .record "HostLifetime" [("phase", .text l.phase.text), ("hooks", .nat l.hooks.length)]

theorem register_eq_ok_iff {l l' : Lifetime H W} {hook : Hook H} :
    l.register hook = .ok l' ↔
      l.phase = .running ∧ l' = { l with hooks := l.hooks ++ [hook] } := by
  unfold register isStopping
  constructor
  · intro h
    split at h
    · cases h
    · rename_i running
      cases h
      exact ⟨by simpa using running, rfl⟩
  · rintro ⟨running, rfl⟩
    rw [running]
    rfl

/-- A wait is over exactly when its goal is reached. -/
theorem poll_ready_iff {l : Lifetime H W} {id : WaitId} {w : W} {x : Wait W}
    (known : l.waits[id]? = some x) : (l.poll id w).2 = true ↔ x.goal.reachedIn l.phase = true := by
  unfold poll
  rw [known]
  by_cases reached : x.goal.reachedIn l.phase = true <;> simp [reached]

/-- The hooks of a host that begins to stop are handed over, and none is kept. -/
theorem beginStopping_of_running {l : Lifetime H W} (running : l.phase = .running) :
    l.beginStopping.1.phase = .stopping ∧ l.beginStopping.1.hooks = [] ∧
      l.beginStopping.2.1 = l.hooks := by
  unfold beginStopping
  rw [if_pos running]
  exact ⟨rfl, rfl, rfl⟩

theorem rank_beginStopping (l : Lifetime H W) : l.phase.rank ≤ l.beginStopping.1.phase.rank := by
  unfold beginStopping
  split
  · rename_i h; rw [h]; exact Nat.zero_le _
  · exact Nat.le_refl _

theorem rank_markStopped (l : Lifetime H W) : l.phase.rank ≤ l.markStopped.1.phase.rank := by
  show l.phase.rank ≤ 2
  cases l.phase <;> decide

end Lifetime

end HostBench
