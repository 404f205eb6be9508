/-
  Performing commands: every command that does not wait, and the callbacks that commands lead to.
-/
import HostBench.Scenario.Recording
import HostBench.Scenario.Resolving

namespace HostBench.Scenario

/-- A command in a place where it cannot be used is not known there. -/
def unknown (name : String) : Try Json := throw (.badInput ("unknown op " ++ name))

/-- Performs a command that does not wait. -/
def Command.perform (cb : Callbacks) : Command → Try Json
  | .clock c => c.perform cb
  | .future c => c.perform
  | .log c => c.perform
  | .adapter c => c.perform cb
  | .registry c => c.perform cb
  | .builder c => c.perform cb
  | .host c => c.perform cb
  | .provider c => c.perform cb
  | .handle c => c.perform
  | .lifetime c => c.perform
  | .onWake waker run => do
    modify fun w => { w with wakerScripts := w.wakerScripts.insert waker run }
    return nothing
  | .note v => do
    Scenario.note (.note v)
    return nothing
  | .spawn delay run => do
    let _ ← newTask (.delayed delay run)
    return nothing
  | .routine c => unknown c.name
  | .blocking c => unknown c.name
  | .malformed message => throw (.badInput message)

/-- Performs a command and then drops what nothing holds any more. -/
def Command.settle (cb : Callbacks) (c : Command) : Act Answer := do
  let answer ← (c.perform cb).run
  collect cb
  return answer

/-- How deep callbacks may lead into one another. -/
def depthLimit : Nat := 4096

/-- The callbacks of commands that may lead into one another `depth` times more; beyond that nothing
is performed. -/
def callbacks : Nat → Callbacks
  | 0 => ⟨fun _ => return .error (.panicked "nested too deep"),
      fun _ key => return .error (.factory key.typeName "nested too deep")⟩
  | depth + 1 =>
    let inner := callbacks depth
    ⟨fun c => c.settle inner, resolve inner⟩

end HostBench.Scenario
