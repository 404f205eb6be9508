/-
  Hosts: the settings, the provider and the lifetime that belong together, from the time at which
  the host is built until it is disposed or dropped. Hooks run before services are released, and a
  host that has been disposed stays so.
-/
import HostBench.Service.Provider
import HostBench.Settings
import HostBench.Shutdown

namespace HostBench

/-- The state of a host. -/
inductive HostState where
  | created
  | running
  | stopped
  deriving DecidableEq

namespace HostState

/-- The state in a sentence. -/
def text : HostState → String
  | .created => "created"
  | .running => "running"
  | .stopped => "stopped"

/-- The name of the state. -/
def name : HostState → String
  | .created => "Created"
  | .running => "Running"
  | .stopped => "Stopped"

end HostState

/-- A host: its settings, where its provider and its lifetime are kept, and the report of its
shutdown once there is one. -/
structure Host where
  settings : Settings
  provider : Nat
  lifetime : Nat
  state : HostState
  report : Option ShutdownReport

/-- What a host needs of the state around it, beyond what its shutdown does: the places of
providers and lifetimes, how the wakers of a phase change are woken, and what becomes of services
that are let go. -/
structure HostStage (σ H ρ V F W : Type) extends Stage σ H ρ W where
  provider : Nat → Place σ (Provider V F)
  lifetime : Nat → Place σ (Lifetime H W)
  wake : W → StateM σ Unit
  discard : StateM σ Unit

/-- A host that is being disposed. -/
structure Disposal (H ρ : Type) where
  host : Host
  shutdown : Shutdown H ρ

namespace Host

variable {σ H ρ V F W : Type}

/-- A host that has just been built. -/
def new (settings : Settings) (provider lifetime : Nat) : Host :=
  ⟨settings, provider, lifetime, .running, none⟩

/-- Refuses an operation on a host that has stopped. -/
def ensureRunning (h : Host) (operation : String) : Except DisposedError Unit :=
  if h.state = .stopped then .error ⟨operation⟩ else .ok ()

/-- Where the provider of a running host is kept. -/
def services (h : Host) : Except DisposedError Nat :=
  (h.ensureRunning "services").map fun _ => h.provider

/-- Where the lifetime of a running host is kept. -/
def lifetimeOf (h : Host) : Except DisposedError Nat :=
  (h.ensureRunning "lifetime").map fun _ => h.lifetime

/-- A host as a dump, given what its provider shows. -/
def dump (h : Host) (provider : Dump) : Dump :=
  .record "TestServiceHost" [("host_name", .string h.settings.hostName),
    ("state", .text h.state.name), ("provider", provider)]

/-- Stops the lifetime of the host for good and wakes those who wait. -/
def markStopped (stage : HostStage σ H ρ V F W) (h : Host) : StateM σ Unit := do
  let (l, woken) := (← (stage.lifetime h.lifetime).read).markStopped
  (stage.lifetime h.lifetime).write l
  woken.forM stage.wake

/-- Releases the services of the host, all at once, and lets them go after that; the answer is how
many there were. -/
def release (stage : HostStage σ H ρ V F W) (h : Host) : StateM σ Nat := do
  let (p, count) := (← (stage.provider h.provider).read).release
  (stage.provider h.provider).write p
  stage.discard
  return count

/-- The end of a disposal: the lifetime stops, then the services are released, and the report is
kept. -/
def finish (stage : HostStage σ H ρ V F W) (h : Host) (records : List ShutdownRecord) :
    StateM σ (Host × ShutdownReport) := do
  h.markStopped stage
  let released ← h.release stage
  let report : ShutdownReport := ⟨records, released⟩
  stage.report (.disposed h.settings.hostName released report.isClean)
  return ({ h with state := .stopped, report := some report }, report)

/-- Polls a disposal. -/
def pollDisposal [BEq W] (stage : HostStage σ H ρ V F W) (d : Disposal H ρ) :
    StateM σ (Step (Disposal H ρ) (Host × ShutdownReport)) := do
  match ← d.shutdown.poll stage.toStage with
  | .waiting s => return .waiting { d with shutdown := s }
  | .panicked message => return .panicked message
  | .done records => return .done (← d.host.finish stage records)

/-- Begins to dispose a host: its lifetime begins to stop and hands over the hooks, which then run.
A host that has a report gives it again and does nothing else. -/
def dispose [BEq W] (stage : HostStage σ H ρ V F W) (h : Host) :
    StateM σ (Step (Disposal H ρ) (Host × ShutdownReport)) := do
  match h.report with
  | some report =>
    stage.report (.alreadyDisposed h.settings.hostName)
    return .done (h, report)
  | none =>
    let (l, hooks, woken) := (← (stage.lifetime h.lifetime).read).beginStopping
    (stage.lifetime h.lifetime).write l
    woken.forM stage.wake
    let name := h.settings.hostName
    let timeout := h.settings.shutdownTimeout
    stage.report (.shutdownInitiated name hooks.length timeout)
    pollDisposal stage ⟨h, ⟨name, timeout, none, hooks, []⟩⟩

/-- Gives up a disposal where it stands; the hooks that it has not run are lost. -/
def cancelDisposal (stage : HostStage σ H ρ V F W) (d : Disposal H ρ) : StateM σ Unit :=
  d.shutdown.abandon stage.toStage

/-- Drops a host. One that has not stopped releases its services without running its hooks. -/
def drop (stage : HostStage σ H ρ V F W) (h : Host) : StateM σ Unit := do
  if h.state = .stopped then return ()
  else
    stage.report (.droppedUndisposed h.settings.hostName)
    h.markStopped stage
    let _ ← h.release stage
    return ()

end Host

end HostBench
