/-
  Scopes: a host that is there for the run of one body. Whatever becomes of the body, the host does
  not outlive the scope: it is disposed when the body is through, and dropped when the body or a hook
  panics or the scope is given up.
-/
import HostBench.Builder

namespace HostBench

/-- A body that runs with a host: how it is asked for its result, and how it is given up. -/
structure Visit (σ β R : Type) where
  poll : Host → β → StateM σ (Step β R)
  abandon : β → StateM σ Unit

/-- A scope in progress. -/
inductive Scope (H ρ β R : Type) where
  /-- The body runs. -/
  | inside (host : Host) (body : β)
  /-- The body has its result, and the host is being disposed. -/
  | leaving (result : R) (d : Disposal H ρ)

namespace Scope

variable {σ H ρ V F W β R ε : Type}

/-- What a poll of the disposal comes to for the scope: at the end the result of the body, and the
report. -/
def leave (stage : HostStage σ H ρ V F W) (host : Host) (result : R) :
    Step (Disposal H ρ) (Host × ShutdownReport) →
      StateM σ (Step (Scope H ρ β R) (R × ShutdownReport))
  | .waiting d => return .waiting (.leaving result d)
  | .done (_, report) => return .done (result, report)
  | .panicked message => do
    host.drop stage
    return .panicked message

/-- What a poll of the body comes to for the scope. -/
def afterBody [BEq W] (stage : HostStage σ H ρ V F W) (host : Host) :
    Step β R → StateM σ (Step (Scope H ρ β R) (R × ShutdownReport))
  | .waiting body => return .waiting (.inside host body)
  | .done result => do leave stage host result (← host.dispose stage)
  | .panicked message => do
    host.drop stage
    return .panicked message

/-- Polls a scope. -/
def poll [BEq W] (stage : HostStage σ H ρ V F W) (visit : Visit σ β R) :
    Scope H ρ β R → StateM σ (Step (Scope H ρ β R) (R × ShutdownReport))
  | .inside host body => do afterBody stage host (← visit.poll host body)
  | .leaving result d => do leave stage d.host result (← Host.pollDisposal stage d)

/-- Gives a scope up where it stands, and then drops the host. -/
def abandon (stage : HostStage σ H ρ V F W) (visit : Visit σ β R) : Scope H ρ β R → StateM σ Unit
  | .inside host body => do
    visit.abandon body
    host.drop stage
  | .leaving _ d => do
    Host.cancelDisposal stage d
    d.host.drop stage

/-- Begins a scope with a host that is built for it. Where none is built, the body does not run. -/
def enter [BEq W] (stage : HostStage σ H ρ V F W) (visit : Visit σ β R)
    (build : StateM σ (Except ε Host)) (body : β) :
    StateM σ (Except ε (Step (Scope H ρ β R) (R × ShutdownReport))) := do
  match ← build with
  | .error e => return .error e
  | .ok host => return .ok (← poll stage visit (.inside host body))

end Scope

end HostBench
