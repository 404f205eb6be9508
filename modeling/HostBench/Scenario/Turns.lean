/-
  Who has a turn when, while a step waits on the timer. The step goes first. Then the tasks in the
  background have theirs, one round of them at a time, and after each round the step is asked again
  if there is something new for it. When nobody has anything to do, the timer moves on, but not before
everyone has been asked once more after the last who was given something to do.
-/
import HostBench.Scenario.Blocked
import HostBench.Scenario.Tasks

namespace HostBench.Scenario

/-- How many turns make a round. -/
def roundLength : Nat := 61

/-- Does something with the budget of one turn. -/
def inOneTurn {α : Type} (act : Act α) : Act α := do
  modify fun w => { w with timer := { w.timer with budget := some Timer.turnBudget } }
  let a ← act
  modify fun w => { w with timer := { w.timer with budget := none } }
  return a

/-- Calls the tasks to their turns, so many at most; the answer is whether it ended with nobody in
line. -/
def giveTurns (cb : Callbacks) : Nat → Act Bool
  | 0 => return false
  | left + 1 => do
    let (roster, called) := (← get).roster.call
    modify fun w => { w with roster := roster }
    match called with
    | some task =>
      inOneTurn (takeTurn cb task)
      giveTurns cb left
    | none => return true

/-- Wakes everyone whose alarm is due, a batch at a time; `fuel` bounds the number of batches. -/
def ringAlarms (cb : Callbacks) : Nat → Act Unit
  | 0 => return ()
  | fuel + 1 => do
    match (← get).timer.ring with
    | (_, []) => return ()
    | (t, woken) =>
      World.timerPlace.write t
      woken.forM (wake cb)
      ringAlarms cb fuel

/-- Moves the timer on to the next point at which it stops, unless someone was given something to do
since it was last about to move: then everyone is asked once more. -/
def moveOn (cb : Callbacks) (point : Millis) : Act Unit := do
  let w ← get
  if w.roused then set { w with roused := false }
  else
    set { w with timer := { w.timer with now := point } }
    ringAlarms cb (w.timer.alarms.length + 1)

/-- Wakes those who are put down for the next turn, the last one first. -/
def wakeDeferred (cb : Callbacks) : Act Unit := do
  let w ← get
  set { w with timer := { w.timer with deferred := [] }, roused := false }
  w.timer.deferred.reverse.forM (wake cb)

/-- Asks the step again if there is something new for it. -/
def askAgain (cb : Callbacks) (b : Blocked) : Act Turn := do
  if (← get).mainWoken then
    modify fun w => { w with mainWoken := false }
    inOneTurn (b.poll cb)
  else return .waits b

/-- What happens between two rounds. If nobody was left in line, the timer moves on. The answer is
whether anything can happen at all. -/
def betweenRounds (cb : Callbacks) (idle : Bool) : Act Bool := do
  let w ← get
  if !idle || !w.timer.deferred.isEmpty then
    wakeDeferred cb
    return true
  else
    match w.timer.nextStop with
    | none => return w.mainWoken
    | some point =>
      moveOn cb point
      return true

/-- Gives everyone their turns until the step can answer; `fuel` bounds the number of rounds. -/
def drive (cb : Callbacks) : Nat → Blocked → Act Ending
  | 0, _ => return ⟨.error (.panicked "no end in sight"), none⟩
  | fuel + 1, b => do
    let idle ← giveTurns cb roundLength
    if ← betweenRounds cb idle then
      match ← askAgain cb b with
      | .ends e => return e
      | .waits b => drive cb fuel b
    else return ⟨.error (.panicked "nothing left to wait for"), none⟩

/-- How many rounds a step may take. -/
def roundLimit : Nat := 1000000000

/-- Performs a command that waits to its end. -/
def BlockingCommand.toEnd (cb : Callbacks) (c : BlockingCommand Command) : Act Ending := do
  match ← inOneTurn (c.begin cb).run with
  | .error e =>
    collect cb
    return ⟨.error e, none⟩
  | .ok (.ends e) => return e
  | .ok (.waits b) => drive cb roundLimit b

/-- Performs a command that waits. -/
def BlockingCommand.perform (cb : Callbacks) (c : BlockingCommand Command) : Act Answer := do
  modify fun w => { w with engaged := true, mainWoken := false }
  let e ← c.toEnd cb
  modify fun w => { w with
    engaged := false, joined := none, timer := { w.timer with deferred := [] } }
  if let some (name, h) := e.host then nameHost cb name h
  return e.answer

end HostBench.Scenario
