/-
  The world of a scenario: the objects and their names, the timer with its tasks, and what happened
  during the current step.
-/
import HostBench.Clock
import HostBench.Roster
import HostBench.Scenario.Answer
import HostBench.Scenario.Command

namespace HostBench.Scenario

/-! ## Names -/

/-- Objects by name. -/
structure Names (α : Type) where
  entries : List (String × α)

namespace Names

variable {α : Type}

/-- No names. -/
def empty : Names α := ⟨[]⟩

/-- The object of a name. -/
def find? (n : Names α) (name : String) : Option α := n.entries.lookup name

/-- Without a name. -/
def erase (n : Names α) (name : String) : Names α := ⟨n.entries.filter (·.1 != name)⟩

/-- Gives a name to an object, and takes it from the one that had it. -/
def insert (n : Names α) (name : String) (a : α) : Names α := ⟨(name, a) :: (n.erase name).entries⟩

/-- The objects that have a name. -/
def objects (n : Names α) : List α := n.entries.map (·.2)

/-- Changes every object that has a name. -/
def map (f : α → α) (n : Names α) : Names α := ⟨n.entries.map fun e => (e.1, f e.2)⟩

theorem find?_insert (n : Names α) (name : String) (a : α) : (n.insert name a).find? name = some a := by
  simp [insert, find?]

end Names

/-! ## Objects -/

/-- Who is woken. The scenario's own wakers are of two sorts: those that wait for a sleep, and those
that wait for a phase. -/
inductive Waker where
  | sleeper (name : String)
  | watcher (name : String)
  /-- The step that waits on the timer. -/
  | main
  /-- A task in the background. -/
  | task (id : Nat)
  deriving DecidableEq

/-- What a service is. -/
inductive Content where
  | plain (v : Json)
  | probe (label : String)
  | fakeClock (clock : Nat)
  | clock (source : TimeSource)
  | memoryLog (log : Nat)
  | eventLog (log : Nat)
  | lifetime (lifetime : Nat)
  | environment (settings : Settings)

/-- A service with the number of its allocation. -/
structure Service where
  allocation : Nat
  content : Content

/-- Where the event log of a service is kept. -/
def Service.log? (s : Service) : Option Nat :=
  match s.content with
  | .memoryLog log => some log
  | .eventLog log => some log
  | _ => none

/-- Both are the same allocation. An event log is one allocation under each of its capabilities. -/
def Service.same (a b : Service) : Bool :=
  match a.log?, b.log? with
  | some l, some m => l == m
  | none, none => a.allocation == b.allocation
  | _, _ => false

/-- A factory: its key, where its calls are counted, what it runs, what it resolves, how it fails
and what it offers. -/
structure Factory where
  key : Key
  counter : Nat
  run : List Command
  needs : List Capability
  failure : FactoryFailure
  offer : Offer Command

/-- A probe that has not been dropped, and the commands that run when it is. -/
structure Probe where
  allocation : Nat
  label : String
  run : List Command

/-- A clock under a name: where its time comes from, whether it may be moved by hand, its origin
where that is known, and the service that offers it. -/
structure ClockEntry where
  source : TimeSource
  movable : Bool
  origin : Option Instant
  service : Service

/-- An event log under a name: where it is kept, the log in memory that goes by the same name, and
the origin of the times of its records. -/
structure LogEntry where
  log : Nat
  memory : Option Nat
  origin : Option Instant

/-- A future under a name. -/
inductive Future where
  /-- A sleep of a clock that moves by hand. -/
  | sleep (clock : Nat) (id : SleepId)
  /-- A sleep on the timer. -/
  | timer (p : Pause)
  /-- A wait for a phase. -/
  | wait (lifetime : Nat) (id : WaitId)

/-- How far a task in the background has come. -/
inductive TaskState where
  /-- It has not begun. -/
  | delayed (delay : Duration) (run : List Command)
  /-- It waits on the timer. -/
  | paused (p : Pause) (run : List Command)
  /-- It waits for a phase. -/
  | watching (lifetime : Nat) (goal : Goal) (wait : Option WaitId)
  /-- It has ended, with the phase that it read. -/
  | ended (phase : Option Phase)

/-- The hooks of scenarios. -/
abbrev Body := List Command

/-- The world of a scenario. -/
structure World where
  clocks : Array (FakeClock Waker)
  logs : Array EventLog
  adapters : Array (Adapter Json Json (Fallback Command))
  providers : Array (Provider Service Factory)
  lifetimes : Array (Lifetime Body Waker)
  /-- How often each factory has been called. -/
  calls : Array Nat
  probes : List Probe
  /-- The number of the next allocation. -/
  allocations : Nat
  /-- Allocations that a command in progress holds. -/
  inHand : List Nat
  clockNames : Names ClockEntry
  logNames : Names LogEntry
  adapterNames : Names Nat
  registryNames : Names (Registry Service Factory)
  builderNames : Names (Builder Service Factory Body)
  hostNames : Names Host
  providerNames : Names Nat
  lifetimeNames : Names Nat
  futureNames : Names Future
  taskNames : Names Nat
  handleNames : Names Service
  wakerScripts : Names (List Command)
  timer : Timer Waker
  tasks : Array TaskState
  /-- The tasks that have something to do. -/
  roster : Roster
  /-- A step that waits on the timer is being performed. -/
  engaged : Bool
  /-- The step that waits on the timer has something to do. -/
  mainWoken : Bool
  /-- The task whose end the step that waits on the timer wants to see. -/
  joined : Option Nat
  /-- Someone was given something to do since the timer was last about to move. -/
  roused : Bool
  journal : Array JournalEntry
  woken : Array String
  signalled : Array String
  dropped : Array String
  events : Array Trace.Event
  /-- Commands run aside at present, where their events are not reported. -/
  aside : Bool

namespace World

/-- The world before the first step. -/
def initial : World where
  clocks := #[]
  logs := #[]
  adapters := #[]
  providers := #[]
  lifetimes := #[]
  calls := #[]
  probes := []
  allocations := 0
  inHand := []
  clockNames := .empty
  logNames := .empty
  adapterNames := .empty
  registryNames := .empty
  builderNames := .empty
  hostNames := .empty
  providerNames := .empty
  lifetimeNames := .empty
  futureNames := .empty
  taskNames := .empty
  handleNames := .empty
  wakerScripts := .empty
  timer := .start
  tasks := #[]
  roster := .empty
  engaged := false
  mainWoken := false
  joined := none
  roused := false
  journal := #[]
  woken := #[]
  signalled := #[]
  dropped := #[]
  events := #[]
  aside := false

/-! ## Places -/

/-- Where a clock is kept. -/
def clockAt (id : Nat) : Place World (FakeClock Waker) where
  get w := w.clocks.getD id default
  set c w := { w with clocks := w.clocks.setIfInBounds id c }

/-- Where an event log is kept. -/
def logAt (id : Nat) : Place World EventLog where
  get w := w.logs.getD id (.empty .system none)
  set l w := { w with logs := w.logs.setIfInBounds id l }

/-- Where an adapter is kept. -/
def adapterAt (id : Nat) : Place World (Adapter Json Json (Fallback Command)) where
  get w := w.adapters.getD id default
  set a w := { w with adapters := w.adapters.setIfInBounds id a }

/-- Where a provider is kept. -/
def providerAt (id : Nat) : Place World (Provider Service Factory) where
  get w := w.providers.getD id default
  set p w := { w with providers := w.providers.setIfInBounds id p }

/-- Where a lifetime is kept. -/
def lifetimeAt (id : Nat) : Place World (Lifetime Body Waker) where
  get w := w.lifetimes.getD id default
  set l w := { w with lifetimes := w.lifetimes.setIfInBounds id l }

/-- Where the timer is kept. -/
def timerPlace : Place World (Timer Waker) where
  get w := w.timer
  set t w := { w with timer := t }

/-- What happens now happens in a turn of the step that waits on the timer. -/
def inTurn (w : World) : Bool := w.engaged && !w.aside

/-- The time that a source shows now. -/
def timeOf (w : World) : TimeSource → Option Instant
  | .fake clock => ((clockAt clock).get w).now?
  | .system => none

end World

/-! ## Acting on the world -/

/-- Something that changes the world and has a result. -/
abbrev Act := StateM World

/-- Something that changes the world and may fail. -/
abbrev Try := ExceptT Failure Act

/-- What callbacks are run by: commands, and resolutions within a resolution. -/
structure Callbacks where
  perform : Command → Act Answer
  resolve : Nat → Capability → Act (Except ResolveError Service)

/-- Reports an event. -/
def report (e : Trace.Event) : Act Unit :=
  modify fun w => if w.aside then w else { w with events := w.events.push e }

/-- Reports events in order. -/
def reportAll (es : List Trace.Event) : Act Unit := es.forM report

/-- Puts an entry into the journal. -/
def note (e : JournalEntry) : Act Unit := modify fun w => { w with journal := w.journal.push e }

/-- Runs commands on behalf of someone; the answer of each goes into the journal. -/
def Callbacks.run (cb : Callbacks) (source : Source) (commands : List Command) : Act Unit :=
  commands.forM fun c => do note (.answered source (← cb.perform c))

/-- A number for a new allocation. -/
def allocate : Act Nat := modifyGet fun w => (w.allocations, { w with allocations := w.allocations + 1 })

/-- Puts a task in line for a turn, unless it has ended or stands in line already. -/
def enqueue (task : Nat) : Act Unit := modify fun w =>
  match w.tasks[task]? with
  | none | some (.ended _) => w
  | some _ =>
    if w.roster.contains task then w
    else
      let roster := if w.inTurn then w.roster.addReady task else w.roster.addArrival task
      { w with roster := roster, roused := true }

/-- Lets the step that waits on the timer have another look. -/
def wakeMain : Act Unit := modify fun w => { w with mainWoken := true, roused := true }

/-- Runs the commands of one of the scenario's own wakers. -/
def runScript (cb : Callbacks) (waker : String) : Act Unit := do
  match (← get).wakerScripts.find? waker with
  | some run => cb.run (.wake waker) run
  | none => return ()

/-- Wakes someone. One of the scenario's own wakers then runs its commands. -/
def wake (cb : Callbacks) : Waker → Act Unit
  | .main => wakeMain
  | .task id => enqueue id
  | .sleeper name => do
    modify fun w => { w with woken := w.woken.push name }
    runScript cb name
  | .watcher name => do
    modify fun w => { w with signalled := w.signalled.push name }
    runScript cb name

/-- Does something aside: its events are not reported, it is no part of a turn, and a turn's budget
is nothing to it. -/
def aside {α : Type} (act : Act α) : Act α := do
  let inside := (← get).aside
  let budget := (← get).timer.budget
  modify fun w => { w with aside := true, timer := { w.timer with budget := none } }
  let a ← act
  modify fun w => { w with aside := inside, timer := { w.timer with budget := budget } }
  return a

/-- The object of a name, or the failure that there is none. -/
def named {α : Type} (names : World → Names α) (sort name : String) : Try α := do
  match (names (← get)).find? name with
  | some a => return a
  | none => throw (.absent sort name)

/-- The clock of a name that moves by hand. -/
def movableClock (name : String) : Try Nat := do
  let c ← named (·.clockNames) "clocks" name
  match c.source, c.movable with
  | .fake clock, true => return clock
  | _, _ => throw (.absent "fake clock" name)

/-- The event log in memory of a name. -/
def memoryLog (name : String) : Try Nat := do
  match (← named (·.logNames) "logs" name).memory with
  | some log => return log
  | none => throw (.absent "in-memory log" name)

/-- An answer without content. -/
def nothing : Json := .null

/-- A dump as an answer. -/
def dumpJson (pretty : Bool) (d : Dump) : Json := .string (d.render pretty)

end HostBench.Scenario
