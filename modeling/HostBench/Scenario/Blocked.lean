/-
  Steps that wait on the timer until they have their answer: how they begin, and what it comes to
  when they are asked again.
-/
import HostBench.Scenario.Perform
import HostBench.Scope

namespace HostBench.Scenario

/-- A step that waits. What it waits for may have a limit, at which it gives up. -/
inductive Blocked where
  /-- It waits for a sleep that began at a point of the timer. -/
  | sleeping (hold : Hold) (since : Millis) (limit : Option Pause)
  /-- It disposes the host of a name. -/
  | disposing (name : String) (limit : Option Pause) (d : Disposal Body Routine)
  /-- It runs a scope. -/
  | scoped (s : Scope Body Routine Routine HostState)
  /-- It waits for a task to end. -/
  | joining (task : Nat) (limit : Option Pause)

/-- How a step ends: with its answer, and with a host that goes back to its name. -/
structure Ending where
  answer : Answer
  host : Option (String × Host)

/-- What it comes to when a step is asked. -/
inductive Turn where
  | waits (b : Blocked)
  | ends (e : Ending)

/-- The step has its answer. -/
def Turn.answers (a : Answer) : Turn := .ends ⟨a, none⟩

/-- How long a step waits for a sleep at most. -/
def sleepLimit : Duration := .ofSeconds 86400

/-- How long a step waits for a task at most. -/
def joinLimit : Duration := .ofSeconds 3600

/-- Some of the turn's budget is left. -/
def fresh : Act Bool := do return !(← get).timer.exhausted

/-! ## Asking -/

/-- What it comes to when a wait for a sleep is asked. -/
def sleepTurn (cb : Callbacks) (hold : Hold) (since : Millis) (limit : Option Pause) :
    Act Turn := do
  let stage := stage cb
  let before ← fresh
  let (hold, ended) ← hold.poll .main
  if ended then
    stage.lift limit
    return .answers (.ok (durationJson (Millis.since (← stage.now) since)))
  else
    let (limit, up) ← stage.isUp before limit
    if up then
      hold.abandon
      return .answers (.ok (.string "pending"))
    else return .waits (.sleeping hold since limit)

/-- What it comes to when the disposal of a host has been asked, which its name had in the form `h`
before. -/
def disposalTurn (cb : Callbacks) (before : Bool) (name : String) (limit : Option Pause)
    (h : Host) : Step (Disposal Body Routine) (Host × ShutdownReport) → Act Turn
  | .done (h, report) => do
    (stage cb).lift limit
    return .ends ⟨.ok (reportJson report), some (name, h)⟩
  | .panicked message => do
    (stage cb).lift limit
    return .ends ⟨.error (.panicked message), some (name, h)⟩
  | .waiting d => do
    let (limit, up) ← (stage cb).isUp before limit
    if up then
      Host.cancelDisposal (stage cb) d
      return .ends ⟨.ok (.string "cancelled"), some (name, h)⟩
    else return .waits (.disposing name limit d)

/-- The body of a scope is run as part of the step that waits on the timer. Its result is the state in
which it leaves the host. -/
def visit (cb : Callbacks) : Visit World Routine HostState where
  poll host r := do
    match ← r.poll cb .main with
    | .waiting r => return .waiting r
    | .finished _ => return .done host.state
    | .panicked message => return .panicked message
  abandon := Routine.abandon

/-- What it comes to when a scope has been asked. -/
def scopeTurn : Step (Scope Body Routine Routine HostState) (HostState × ShutdownReport) → Turn
  | .done (state, report) =>
    .answers (.ok (.ofEntries [("body", .string state.text), ("report", reportJson report)]))
  | .panicked message => .answers (.error (.panicked message))
  | .waiting s => .waits (.scoped s)

/-- What it comes to when a wait for a task is asked. -/
def joinTurn (cb : Callbacks) (task : Nat) (limit : Option Pause) : Act Turn := do
  match (← get).tasks[task]? with
  | some (.ended (some phase)) =>
    (stage cb).lift limit
    return .answers (.ok (.string phase.text))
  | _ =>
    modify fun w => { w with joined := some task }
    let (limit, up) ← (stage cb).isUp true limit
    if up then return .answers (.ok (.string "pending"))
    else return .waits (.joining task limit)

/-- Asks a step that waits whether it can go on. -/
def Blocked.poll (cb : Callbacks) : Blocked → Act Turn
  | .sleeping hold since limit => sleepTurn cb hold since limit
  | .disposing name limit d => do
    disposalTurn cb (← fresh) name limit d.host (← Host.pollDisposal (stage cb) d)
  | .scoped s => do return scopeTurn (← s.poll (stage cb) (visit cb))
  | .joining task limit => joinTurn cb task limit

/-! ## Beginning -/

/-- Begins a command that waits. -/
def BlockingCommand.begin (cb : Callbacks) : BlockingCommand Command → Try Turn
  | .sleep clock length => do
    let c ← named (·.clockNames) "clocks" clock
    let f ← sleepOn length c.source
    let t := (← get).timer
    sleepTurn cb (.future f) t.now (t.limit sleepLimit)
  | .dispose name => do
    let h ← takeHost name
    disposalTurn cb (← fresh) name none h (← h.dispose (stage cb))
  | .disposeWithin name limit => do
    let h ← takeHost name
    let limit := (← get).timer.limit limit
    disposalTurn cb (← fresh) name limit h (← h.dispose (stage cb))
  | .scoped builder provider lifetime run => do
    let build : Try Host := do
      let h ← buildHost builder
      nameProvider provider h.provider
      nameLifetime lifetime h.lifetime
      return h
    return scopeTurn (← ExceptT.mk (Scope.enter (stage cb) (visit cb) build.run ⟨.body, none, run⟩))
  | .join name => do
    let task ← named (·.taskNames) "task" name
    modify fun w => { w with taskNames := w.taskNames.erase name }
    joinTurn cb task ((← get).timer.limit joinLimit)

end HostBench.Scenario
