/-
  Commands on clocks, and on the futures that scenarios poll by hand: sleeps, and waits for a phase.
-/
import HostBench.Scenario.World

namespace HostBench.Scenario

/-! ## Clocks -/

/-- Adds a clock that moves by hand; the answer is where it is kept. -/
def newClock (origin : Instant) : Act Nat :=
  modifyGet fun w => (w.clocks.size, { w with clocks := w.clocks.push (.withOrigin origin) })

/-- How far a clock of no special origin can move. -/
def defaultHeadroom : Duration := .ofSeconds 9223372036854775807

/-- Gives a name to a clock. -/
def nameClock (name : String) (c : ClockEntry) : Act Unit :=
  modify fun w => { w with clockNames := w.clockNames.insert name c }

/-- A clock of a source that is offered as a service of its own. -/
def clockEntry (source : TimeSource) (movable : Bool) (origin : Option Instant) :
    Act ClockEntry := do
  return ⟨source, movable, origin, ⟨← allocate, .clock source⟩⟩

/-! ## Futures -/

/-- Gives a future up. -/
def Future.abandon : Future → Act Unit
  | .sleep clock id => modify fun w =>
    (World.clockAt clock).set (((World.clockAt clock).get w).cancel id) w
  | .timer p => modify fun w => { w with timer := w.timer.cancel p }
  | .wait lifetime id => modify fun w =>
    (World.lifetimeAt lifetime).set (((World.lifetimeAt lifetime).get w).cancel id) w

/-- Polls a wait for a phase on behalf of a waker, as far as the budget of the turn allows. -/
def pollWait (waker : Waker) (lifetime : Nat) (id : WaitId) : Act Bool := do
  let t := (← get).timer
  if t.exhausted then
    World.timerPlace.write (t.defer waker)
    return false
  else
    let (l, ready) := (← (World.lifetimeAt lifetime).read).poll id waker
    (World.lifetimeAt lifetime).write l
    if ready then World.timerPlace.write t.spend
    return ready

/-- Polls a future on behalf of a waker: the future as it is then, and whether it is ready. -/
def Future.poll (waker : Waker) : Future → Act (Future × Bool)
  | .sleep clock id => do
    let (c, ready) := (← (World.clockAt clock).read).poll id waker
    (World.clockAt clock).write c
    return (.sleep clock id, ready)
  | .timer p => do
    let (t, p, ready) := (← get).timer.poll p waker
    World.timerPlace.write t
    return (.timer p, ready)
  | .wait lifetime id => do return (.wait lifetime id, ← pollWait waker lifetime id)

/-- A sleep on a source of time; the system's own time passes on the timer. -/
def sleepOn (length : Duration) : TimeSource → Act Future
  | .fake clock => do
    let (c, id) := (← (World.clockAt clock).read).sleep length
    (World.clockAt clock).write c
    return .sleep clock id
  | .system => return .timer ((← get).timer.pause length)

/-- A wait for a phase of a lifetime. -/
def waitFor (lifetime : Nat) (goal : Goal) : Act Future := do
  let (l, id) := (← (World.lifetimeAt lifetime).read).wait goal
  (World.lifetimeAt lifetime).write l
  return .wait lifetime id

/-- Gives a name to a future; the one that had it is given up. -/
def nameFuture (name : String) (f : Future) : Act Unit := do
  let old := (← get).futureNames.find? name
  modify fun w => { w with futureNames := w.futureNames.insert name f }
  match old with
  | some old => old.abandon
  | none => return ()

/-- Takes the name from a future. -/
def forgetFuture (name : String) : Act Unit :=
  modify fun w => { w with futureNames := w.futureNames.erase name }

/-! ## Commands -/

/-- Performs a command on a clock. -/
def ClockCommand.perform (cb : Callbacks) : ClockCommand → Try Json
  | .create name headroom => do
    let origin := Instant.withHeadroom headroom
    let clock ← newClock origin
    nameClock name (← clockEntry (.fake clock) true (some origin))
    return nothing
  | .copy name target => do
    nameClock target (← named (·.clockNames) "clocks" name)
    return nothing
  | .hide name target => do
    nameClock target { ← named (·.clockNames) "clocks" name with movable := false }
    return nothing
  | .system name => do
    nameClock name (← clockEntry .system false none)
    return nothing
  | .now name => do
    let c ← named (·.clockNames) "clocks" name
    match (← get).timeOf c.source, c.origin with
    | some t, some origin => return durationJson (t.since origin)
    | _, _ => return .bool true
  | .advance name delta => do
    let clock ← movableClock name
    FakeClock.advanceAt (World.clockAt clock) (fun woken => report (.clockAdvanced delta woken))
      (wake cb) delta
    return durationJson ((World.clockAt clock).get (← get)).elapsed
  | .elapsed name => do
    let clock ← movableClock name
    return durationJson ((World.clockAt clock).get (← get)).elapsed
  | .pending name => do
    let clock ← movableClock name
    return .int ((World.clockAt clock).get (← get)).pendingSleepers
  | .debug name pretty => do
    let clock ← movableClock name
    return dumpJson pretty ((World.clockAt clock).get (← get)).dump
  | .sleep name future length => do
    let c ← named (·.clockNames) "clocks" name
    nameFuture future (← sleepOn length c.source)
    return nothing

/-- The waker of a name for a future. -/
def Future.waker (name : String) : Future → Waker
  | .wait .. => .watcher name
  | _ => .sleeper name

/-- Performs a command on a future. A wait for a phase is over when it is ready; a sleep may be
polled again. -/
def FutureCommand.perform : FutureCommand → Try Json
  | .poll name waker => do
    let f ← named (·.futureNames) "future" name
    let (f, ready) ← f.poll (f.waker waker)
    match f, ready with
    | .wait .., true => forgetFuture name
    | f, _ => modify fun w => { w with futureNames := w.futureNames.insert name f }
    return .string (if ready then "ready" else "pending")
  | .drop name => do
    let f ← named (·.futureNames) "future" name
    forgetFuture name
    f.abandon
    return nothing

end HostBench.Scenario
