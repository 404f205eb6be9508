/-
  Sessions: commands that are performed one after the other, each with what came of it.
-/
import HostBench.Scenario.Turns

namespace HostBench.Scenario

/-- Text in order. -/
def sorted (texts : Array String) : List String := texts.toList.mergeSort fun a b => decide (a ≤ b)

/-- Forgets what happened during the last step. -/
def World.fresh (w : World) : World :=
  { w with journal := #[], woken := #[], signalled := #[], dropped := #[], events := #[] }

/-- What came of the step that has just been performed. -/
def World.outcome (w : World) (answer : Answer) : Outcome where
  answer := answer
  journal := w.journal.toList
  woken := w.woken.toList
  signalled := sorted w.signalled
  dropped := sorted w.dropped
  events := w.events.toList

/-- Performs a command as a step of a session. -/
def Command.step (c : Command) : Act Outcome := do
  modify World.fresh
  let cb := callbacks depthLimit
  let answer ← match c with
    | .blocking b => b.perform cb
    | c => cb.perform c
  collect cb
  return (← get).outcome answer

/-- Performs commands as the steps of one session. -/
def session (commands : List Command) : List Outcome :=
  (commands.mapM Command.step World.initial).1

end HostBench.Scenario
