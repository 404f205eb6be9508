/-
  Tasks in the background, and what one of them does with a turn.
-/
import HostBench.Scenario.Clocks

namespace HostBench.Scenario

/-- Adds a task in the background, which is to have a turn soon; the answer is its number. -/
def newTask (t : TaskState) : Act Nat := do
  let task := (← get).tasks.size
  modify fun w => { w with tasks := w.tasks.push t }
  enqueue task
  return task

/-- Puts down how far a task has come. -/
def setTask (task : Nat) (t : TaskState) : Act Unit :=
  modify fun w => { w with tasks := w.tasks.setIfInBounds task t }

/-- Runs the commands of a task if its pause is over, or lets it wait. -/
def runWhenOver (cb : Callbacks) (task : Nat) (p : Pause) (run : List Command) : Act Unit := do
  let (t, p, ended) := (← get).timer.poll p (.task task)
  World.timerPlace.write t
  if ended then
    setTask task (.ended none)
    cb.run .task run
  else setTask task (.paused p run)

/-- Lets a task go on that waits for a phase, and that reads the phase in the end. -/
def watchOn (task lifetime : Nat) (goal : Goal) (id : WaitId) : Act Unit := do
  if ← pollWait (.task task) lifetime id then
    setTask task (.ended (some ((World.lifetimeAt lifetime).get (← get)).phase))
    if (← get).joined = some task then wakeMain
  else setTask task (.watching lifetime goal (some id))

/-- Gives a task in the background its turn. -/
def takeTurn (cb : Callbacks) (task : Nat) : Act Unit := do
  match (← get).tasks[task]? with
  | some (.delayed delay run) => runWhenOver cb task ((← get).timer.pause delay) run
  | some (.paused p run) => runWhenOver cb task p run
  | some (.watching lifetime goal (some id)) => watchOn task lifetime goal id
  | some (.watching lifetime goal none) =>
    let (l, id) := (← (World.lifetimeAt lifetime).read).wait goal
    (World.lifetimeAt lifetime).write l
    watchOn task lifetime goal id
  | _ => return ()

end HostBench.Scenario
