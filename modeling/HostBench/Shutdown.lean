/-
  The orderly end of a host's hooks. They run one after the other in the order of registration, each
  against a timeout; one that fails or takes too long is recorded and never keeps the next one from
  running.
-/
import HostBench.Lifetime
import HostBench.Place
import HostBench.Timer
import HostBench.Trace

namespace HostBench

/-- Why a hook failed. -/
structure HookError where
  inner : String
  deriving DecidableEq

namespace HookError

/-- The error in words. -/
def message (e : HookError) : String := "shutdown hook failed: " ++ e.inner

/-- The error as a dump. -/
def dump (e : HookError) : Dump := .record "HookError" [("message", .string e.inner)]

end HookError

/-- What became of a hook. -/
inductive HookStatus where
  | completed
  | failed (e : HookError)
  | timedOut
  deriving DecidableEq

/-- The record of one hook: what became of it, and after how long. -/
structure ShutdownRecord where
  label : String
  status : HookStatus
  elapsed : Duration
  deriving DecidableEq

/-- The report of a shutdown: a record for each hook in order, and how many services were
released. -/
structure ShutdownReport where
  records : List ShutdownRecord
  released : Nat
  deriving DecidableEq

/-- Every hook has run to completion. -/
def ShutdownReport.isClean (r : ShutdownReport) : Bool := r.records.all (·.status == .completed)

/-- Where a routine is after it has been polled. -/
inductive Progress (ρ : Type) where
  | waiting (r : ρ)
  | finished (result : Except HookError Unit)
  | panicked (message : String)

/-- What a shutdown needs of the state around it: hooks `H` run as routines `ρ`, on a timer that
wakes `waker` when a hook has had its time. -/
structure Stage (σ H ρ W : Type) where
  timer : Place σ (Timer W)
  waker : W
  report : Trace.Event → StateM σ Unit
  /-- The routine of a hook before it has begun. -/
  start : Hook H → ρ
  poll : ρ → StateM σ (Progress ρ)
  /-- Gives up a routine where it stands. -/
  abandon : ρ → StateM σ Unit

/-- A hook that is running, since when, and the limit of its time if there is one. -/
structure RunningHook (ρ : Type) where
  label : String
  routine : ρ
  since : Millis
  limit : Option Pause

/-- A shutdown in progress: the hook that is running, those that are still to run, and the records
of those that have. -/
structure Shutdown (H ρ : Type) where
  host : String
  timeout : Duration
  running : Option (RunningHook ρ)
  queue : List (Hook H)
  records : List ShutdownRecord

/-- What a poll of a hook or a whole shutdown comes to: it waits, it has a result, or a hook
panicked. -/
inductive Step (α β : Type) where
  | waiting (a : α)
  | done (b : β)
  | panicked (message : String)

namespace Stage

variable {σ H ρ W : Type}

/-- The present point of the timer. -/
def now (stage : Stage σ H ρ W) : StateM σ Millis := do return (← stage.timer.read).now

/-- Takes a limit back. -/
def lift (stage : Stage σ H ρ W) (limit : Option Pause) : StateM σ Unit :=
  match limit with
  | some p => do stage.timer.write ((← stage.timer.read).cancel p)
  | none => return ()

/-- Asks whether a limit is up. `fresh` says whether any of the turn's budget was left before. -/
def isUp [BEq W] (stage : Stage σ H ρ W) (fresh : Bool) (limit : Option Pause) :
    StateM σ (Option Pause × Bool) := do
  let (t, limit, up) := (← stage.timer.read).pollLimit fresh limit stage.waker
  stage.timer.write t
  return (limit, up)

end Stage

namespace Shutdown

variable {σ H ρ W : Type}

/-- Polls the running hook first, and its timeout only if the hook still waits. -/
def pollHook [BEq W] (stage : Stage σ H ρ W) (host : String) (timeout : Duration)
    (h : RunningHook ρ) : StateM σ (Step (RunningHook ρ) ShutdownRecord) := do
  let fresh := !(← stage.timer.read).exhausted
  match ← stage.poll h.routine with
  | .panicked message =>
    stage.lift h.limit
    return .panicked message
  | .finished result =>
    stage.lift h.limit
    let elapsed := Millis.since (← stage.now) h.since
    match result with
    | .ok () => return .done ⟨h.label, .completed, elapsed⟩
    | .error e =>
      stage.report (.hookFailed host h.label e.message)
      return .done ⟨h.label, .failed e, elapsed⟩
  | .waiting r =>
    let (limit, up) ← stage.isUp fresh h.limit
    if up then
      stage.abandon r
      stage.report (.hookTimedOut host h.label timeout)
      return .done ⟨h.label, .timedOut, Millis.since (← stage.now) h.since⟩
    else return .waiting { h with routine := r, limit := limit }

/-- Starts the next hook, and the one after it where that does not have to wait. -/
def startNext [BEq W] (stage : Stage σ H ρ W) (host : String) (timeout : Duration) :
    List (Hook H) → List ShutdownRecord →
      StateM σ (Step (Shutdown H ρ) (List ShutdownRecord))
  | [], records => return .done records
  | hook :: queue, records => do
    let t ← stage.timer.read
    let h : RunningHook ρ := ⟨hook.label, stage.start hook, t.now, t.limit timeout⟩
    match ← pollHook stage host timeout h with
    | .panicked message => return .panicked message
    | .waiting h => return .waiting ⟨host, timeout, some h, queue, records⟩
    | .done r => startNext stage host timeout queue (records ++ [r])

/-- Polls a shutdown. -/
def poll [BEq W] (stage : Stage σ H ρ W) (s : Shutdown H ρ) :
    StateM σ (Step (Shutdown H ρ) (List ShutdownRecord)) := do
  match s.running with
  | none => startNext stage s.host s.timeout s.queue s.records
  | some h =>
    match ← pollHook stage s.host s.timeout h with
    | .panicked message => return .panicked message
    | .waiting h => return .waiting { s with running := some h }
    | .done r => startNext stage s.host s.timeout s.queue (s.records ++ [r])

/-- Gives up the hook that is running. -/
def abandon (stage : Stage σ H ρ W) (s : Shutdown H ρ) : StateM σ Unit :=
  match s.running with
  | some h => do
    stage.lift h.limit
    stage.abandon h.routine
  | none => return ()

end Shutdown

end HostBench
