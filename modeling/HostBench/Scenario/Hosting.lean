/-
  Commands that lead to a host and go on with it: registries, builders, hosts and lifetimes.
-/
import HostBench.Scenario.Routine
import HostBench.Scenario.Services
import HostBench.Scenario.Tasks

namespace HostBench.Scenario

/-- The world as a host sees it. The hooks run as part of the step that waits on the timer. -/
def stage (cb : Callbacks) : HostStage World Body Routine Service Factory Waker where
  timer := World.timerPlace
  waker := .main
  report := report
  start := .ofHook
  poll := Routine.poll cb .main
  abandon := Routine.abandon
  provider := World.providerAt
  lifetime := World.lifetimeAt
  wake := wake cb
  discard := collect cb

/-! ## Registries -/

/-- Gives a name to a registry. -/
def nameRegistry (name : String) (r : Registry Service Factory) : Act Unit :=
  modify fun w => { w with registryNames := w.registryNames.insert name r }

/-- Performs a command on a registry. -/
def RegistryCommand.perform (cb : Callbacks) : RegistryCommand Command → Try Json
  | .create name => do
    nameRegistry name .empty
    return nothing
  | .copy name target => do
    nameRegistry target (← named (·.registryNames) "registries" name)
    return nothing
  | .drop name => do
    let _ ← named (·.registryNames) "registries" name
    modify fun w => { w with registryNames := w.registryNames.erase name }
    return nothing
  | .add name r => do
    let registry ← named (·.registryNames) "registries" name
    match ← register cb registry r.key.capability (← entryOf r) with
    | .error e => throw (.registration e)
    | .ok registry =>
      nameRegistry name registry
      return nothing
  | .contains name key => do
    let registry ← named (·.registryNames) "registries" name
    return .bool (registry.contains key.capability)
  | .info name pretty => do
    let registry ← named (·.registryNames) "registries" name
    return .ofEntries [("len", .int registry.size), ("empty", .bool (registry.size == 0)),
      ("debug", dumpJson pretty registry.dump)]

/-! ## Builders -/

/-- The builders of scenarios. -/
abbrev HostBuilder := Builder Service Factory Body

/-- Gives a name to a builder. -/
def nameBuilder (name : String) (b : HostBuilder) : Act Unit :=
  modify fun w => { w with builderNames := w.builderNames.insert name b }

/-- Takes the name from a builder. -/
def takeBuilder (name : String) : Try HostBuilder := do
  let b ← named (·.builderNames) "builder" name
  modify fun w => { w with builderNames := w.builderNames.erase name }
  return b

/-- Gives a host to a name; the host that had it is dropped. -/
def nameHost (cb : Callbacks) (name : String) (h : Host) : Act Unit := do
  let old := (← get).hostNames.find? name
  modify fun w => { w with hostNames := w.hostNames.insert name h }
  match old with
  | some old => old.drop (stage cb)
  | none => return ()

/-- A built-in service, of allocations that follow each other. -/
def mint (first : Nat) : BuiltIn → Service
  | .fakeClock clock => ⟨first, .fakeClock clock⟩
  | .memoryLog log => ⟨first + 1, .memoryLog log⟩
  | .clock source => ⟨first + 2, .clock source⟩
  | .eventLog log => ⟨first + 3, .eventLog log⟩
  | .lifetime lifetime => ⟨first + 4, .lifetime lifetime⟩
  | .environment settings => ⟨first + 5, .environment settings⟩

/-- Puts what is built at the next free places. -/
def putHost (p : Blueprint Service Factory Body Waker) : Act Host := do
  let w ← get
  set { w with
    lifetimes := w.lifetimes.push p.lifetime
    logs := w.logs ++ p.eventLog.toArray
    providers := w.providers.push (.ofRegistry p.registry) }
  return .new p.settings w.providers.size w.lifetimes.size

/-- Builds the host of a builder, which is used up. -/
def buildHost (name : String) : Try Host := do
  let b ← takeBuilder name
  let w ← getThe World
  modify fun w => { w with allocations := w.allocations + 6 }
  match ← b.raise (mint w.allocations) w.logs.size w.lifetimes.size report putHost with
  | .error e => throw (.configuration e)
  | .ok h => return h

/-- Registers services one after the other up to the first refusal, or all that are not refused if
refusals are ignored; an object that does not exist ends it as well, and is what is left in the
state. What is registered is in hand until the builder has it. -/
def registerAll (cb : Callbacks) (ignoreErrors : Bool) :
    List (Registration Command) → Registry Service Factory →
      StateT (Option Failure) Act (Registry Service Factory × Except RegistrationError Unit)
  | [], registry => do
    note (.registered registry.size registry.dump)
    return (registry, .ok ())
  | r :: rest, registry => do
    match ← (entryOf r).run with
    | .error absent =>
      set (some absent)
      return (registry, .ok ())
    | .ok e =>
      match ← register cb registry r.key.capability e with
      | .ok registry =>
        (heldByEntry e).forM fun s => hold s
        registerAll cb ignoreErrors rest registry
      | .error refusal =>
        if ignoreErrors then registerAll cb ignoreErrors rest registry
        else return (registry, .error refusal)

/-- Registers services with the builder of a name, which has no name in the meantime. -/
def configure (cb : Callbacks) (name : String) (rs : List (Registration Command))
    (ignoreErrors : Bool) : Try Json := do
  let b ← takeBuilder name
  (heldByRegistry b.registry).forM fun s => hold s
  let ((b, events), absent) ← (b.configureServices (registerAll cb ignoreErrors rs)).run none
  reportAll events
  (heldByRegistry b.registry).forM fun s => letGo s
  nameBuilder name b
  match absent with
  | some e => throw e
  | none => return nothing

/-- Performs a command on a builder. -/
def BuilderCommand.perform (cb : Callbacks) : BuilderCommand Command → Try Json
  | .create name => do
    nameBuilder name (.new (← newClock (.withHeadroom defaultHeadroom)))
    return nothing
  | .settings name s => change name (·.withSettings s)
  | .toml name document => do
    let (b, events) := (← named (·.builderNames) "builder" name).withToml document
    reportAll events
    nameBuilder name b
    return nothing
  | .fakeClock name source => do
    let b ← named (·.builderNames) "builder" name
    nameBuilder name (b.withFakeClock (← movableClock source))
    return nothing
  | .clock name source => do
    let b ← named (·.builderNames) "builder" name
    let c ← named (·.clockNames) "clocks" source
    nameBuilder name (b.withClock c.source c.service)
    return nothing
  | .log name source => do
    let b ← named (·.builderNames) "builder" name
    let l ← named (·.logNames) "logs" source
    nameBuilder name (b.withEventLog (← newService (.eventLog l.log)))
    return nothing
  | .registry name source => do
    let b ← named (·.builderNames) "builder" name
    nameBuilder name { b with registry := ← named (·.registryNames) "registries" source }
    return nothing
  | .services name rs ignoreErrors => configure cb name rs ignoreErrors
  | .hook name h => change name (·.addHook h)
  | .debug name pretty => do
    return dumpJson pretty (← named (·.builderNames) "builder" name).dump
  | .drop name => do
    let _ ← takeBuilder name
    return nothing
  | .build name host pretty => do
    let h ← buildHost name
    nameHost cb host h
    return dumpJson pretty (h.dump ((World.providerAt h.provider).get (← get)).dump)
where
  change (name : String) (f : HostBuilder → HostBuilder) : Try Json := do
    nameBuilder name (f (← named (·.builderNames) "builder" name))
    return nothing

/-! ## Hosts -/

/-- Gives a name to a provider. -/
def nameProvider (name : String) (provider : Nat) : Act Unit :=
  modify fun w => { w with providerNames := w.providerNames.insert name provider }

/-- Gives a name to a lifetime. -/
def nameLifetime (name : String) (lifetime : Nat) : Act Unit :=
  modify fun w => { w with lifetimeNames := w.lifetimeNames.insert name lifetime }

/-- Takes the name from a host. -/
def takeHost (name : String) : Try Host := do
  let h ← named (·.hostNames) "hosts" name
  modify fun w => { w with hostNames := w.hostNames.erase name }
  return h

/-- Performs a command on a host. -/
def HostCommand.perform (cb : Callbacks) : HostCommand → Try Json
  | .info name pretty => do
    let h ← named (·.hostNames) "hosts" name
    return .ofEntries [("state", .string h.state.text), ("name", .string h.settings.hostName),
      ("debug", dumpJson pretty (h.dump ((World.providerAt h.provider).get (← get)).dump))]
  | .provider name target => do
    match (← named (·.hostNames) "hosts" name).services with
    | .error e => throw (.disposed e)
    | .ok id =>
      nameProvider target id
      return nothing
  | .lifetime name target => do
    match (← named (·.hostNames) "hosts" name).lifetimeOf with
    | .error e => throw (.disposed e)
    | .ok id =>
      nameLifetime target id
      return nothing
  | .drop name => do
    (← takeHost name).drop (stage cb)
    return nothing

/-! ## Lifetimes -/

/-- Performs a command on a lifetime. -/
def LifetimeCommand.perform : LifetimeCommand Command → Try Json
  | .info name pretty => do
    let l ← look name
    return .ofEntries [("phase", .string l.phase.text), ("is_stopping", .bool l.isStopping),
      ("debug", dumpJson pretty l.dump)]
  | .hook name h => do
    let id ← named (·.lifetimeNames) "lives" name
    match (← look name).register h with
    | .error e => throw (.disposed e)
    | .ok l =>
      (World.lifetimeAt id).write l
      report (.hookRegistered h.label)
      return nothing
  | .wait name future goal => do
    let id ← named (·.lifetimeNames) "lives" name
    nameFuture future (← waitFor id goal)
    return nothing
  | .watch name task goal => do
    let id ← named (·.lifetimeNames) "lives" name
    let number ← newTask (.watching id goal none)
    modify fun w => { w with taskNames := w.taskNames.insert task number }
    return nothing
where
  look (name : String) : Try (Lifetime Body Waker) := do
    let id ← named (·.lifetimeNames) "lives" name
    return (World.lifetimeAt id).get (← get)

end HostBench.Scenario
