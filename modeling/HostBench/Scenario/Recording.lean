/-
  Commands on what a scenario looks at afterwards: event logs and scripted adapters.
-/
import HostBench.Scenario.World

namespace HostBench.Scenario

/-! ## Event logs -/

/-- Gives a name to an event log. -/
def nameLog (name : String) (l : LogEntry) : Act Unit :=
  modify fun w => { w with logNames := w.logNames.insert name l }

/-- The records that a question about the log of a name brings up. -/
def recordsOf (name : String) (pick : EventLog → List EventRecord) : Try Json := do
  let l ← named (·.logNames) "logs" name
  let records := pick ((World.logAt l.log).get (← get))
  return .array (records.map (recordJson l.origin))

/-- Performs a command on an event log. -/
def LogCommand.perform : LogCommand → Try Json
  | .create name clock limit => do
    let c ← named (·.clockNames) "clocks" clock
    let log := (← get).logs.size
    modify fun w => { w with logs := w.logs.push (.empty c.source limit) }
    nameLog name ⟨log, some log, c.origin⟩
    return nothing
  | .append name stream kind payload => do
    let l ← named (·.logNames) "logs" name
    let log := (World.logAt l.log).get (← get)
    match log.appendPayload stream kind payload ((← get).timeOf log.source) with
    | .error e => throw (.log e)
    | .ok (log, r) =>
      (World.logAt l.log).write log
      report (.eventAppended r.sequence r.stream r.kind)
      return recordJson l.origin r
  | .read name stream first => recordsOf name (·.readStream stream first)
  | .all name => recordsOf name (·.records)
  | .size name => do
    let l ← named (·.logNames) "logs" name
    let size := ((World.logAt l.log).get (← get)).size
    return .array [.int size, .bool (size == 0)]
  | .debug name pretty => do
    let log ← memoryLog name
    return dumpJson pretty ((World.logAt log).get (← get)).dump
  | .capacity name => do
    let log ← memoryLog name
    return optionJson ((World.logAt log).get (← get)).capacity
  | .decode name sequence shape => do
    let l ← named (·.logNames) "logs" name
    match ((World.logAt l.log).get (← get)).record? sequence with
    | none => throw (.absent "record" "")
    | some r =>
      match r.decode shape with
      | .error e => throw (.log e)
      | .ok v => return shape.write v

/-! ## Adapters -/

/-- Gives a name to an adapter. -/
def nameAdapter (name : String) (adapter : Nat) : Act Unit :=
  modify fun w => { w with adapterNames := w.adapterNames.insert name adapter }

/-- What a fallback answers to a request once its commands have run. -/
def Response.answer (request : Json) : Response → Except AdapterError Json
  | .echo => .ok request
  | .fixed v => .ok v
  | .failing e => .error e

/-- A fallback answers a request. -/
def answerBy (cb : Callbacks) (f : Fallback Command) (request : Json) :
    Act (Except AdapterError Json) := do
  cb.run .fallback f.run
  return f.response.answer request

/-- Performs a command on an adapter. -/
def AdapterCommand.perform (cb : Callbacks) : AdapterCommand Command → Try Json
  | .create name adapter => do
    let id := (← get).adapters.size
    modify fun w => { w with adapters := w.adapters.push (.named adapter) }
    nameAdapter name id
    return nothing
  | .copy name target => do
    nameAdapter target (← named (·.adapterNames) "mocks" name)
    return nothing
  | .respond name responses => do
    change name fun a => responses.foldl (fun a r => a.push (.respond r)) a
  | .fail name message => change name (·.push (.fail message))
  | .call name request => do
    let id ← named (·.adapterNames) "mocks" name
    match ← Adapter.call (World.adapterAt id)
        (fun adapter callIndex => report (.adapterInvoked adapter callIndex)) (answerBy cb)
        request with
    | .ok v => return v
    | .error e => throw (.adapter e)
  | .calls name => do return .array (← look name).calls
  | .info name => do
    let a ← look name
    return .ofEntries [("name", .string a.name), ("calls", .int a.calls.length),
      ("remaining", .int a.script.length)]
  | .debug name pretty => do return dumpJson pretty (← look name).dump
  | .fallback name f => change name (·.setFallback f)
where
  look (name : String) : Try (Adapter Json Json (Fallback Command)) := do
    let id ← named (·.adapterNames) "mocks" name
    return (World.adapterAt id).get (← get)
  change (name : String)
      (f : Adapter Json Json (Fallback Command) → Adapter Json Json (Fallback Command)) :
      Try Json := do
    let id ← named (·.adapterNames) "mocks" name
    modify fun w => (World.adapterAt id).set (f ((World.adapterAt id).get w)) w
    return nothing

end HostBench.Scenario
