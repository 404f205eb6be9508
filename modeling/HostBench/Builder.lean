/-
  Builders of hosts. The steps of a builder never fail; the first error of a step is kept
  (`firstError_recordError`) and is what building the host comes to.
-/
import HostBench.EventLog
import HostBench.Host

namespace HostBench

/-- Why a host cannot be built. -/
inductive ConfigurationError where
  | registration (e : RegistrationError)
  | settings (e : SettingsError)
  deriving DecidableEq

namespace ConfigurationError

/-- The error in words. -/
def message : ConfigurationError → String
  | .registration e => "service registration failed: " ++ e.message
  | .settings e => "host settings rejected: " ++ e.message

/-- What stands behind the error. -/
def causes : ConfigurationError → List String
  | .registration e => [e.message]
  | .settings e => [e.message]

/-- The error as a dump. -/
def dump : ConfigurationError → Dump
  | .registration e => .wrapped "Registration" e.dump
  | .settings e => .wrapped "Settings" e.dump

end ConfigurationError

/-- The clock of the host: one that moves by hand, or any source of time together with the service
that offers it. -/
inductive ClockChoice (V : Type) where
  | fake (clock : Nat)
  | custom (source : TimeSource) (service : V)

namespace ClockChoice

variable {V : Type}

/-- The source of time. -/
def source : ClockChoice V → TimeSource
  | .fake clock => .fake clock
  | .custom source _ => source

/-- The clock is not the builder's own kind. -/
def isCustom : ClockChoice V → Bool
  | .fake _ => false
  | .custom .. => true

end ClockChoice

/-- A service that every host has. -/
inductive BuiltIn where
  /-- The clock that moves by hand. -/
  | fakeClock (clock : Nat)
  /-- The event log that the host makes for itself. -/
  | memoryLog (log : Nat)
  /-- Any clock. -/
  | clock (source : TimeSource)
  /-- Any event log. -/
  | eventLog (log : Nat)
  /-- The lifetime of the host. -/
  | lifetime (lifetime : Nat)
  /-- The settings of the host. -/
  | environment (settings : Settings)

/-- The capability under which a built-in service is registered. -/
def BuiltIn.capability : BuiltIn → Capability
  | .fakeClock _ => ⟨"exec_testhost::clock::FakeClock"⟩
  | .memoryLog _ => ⟨"exec_testhost::event_log::InMemoryEventLog"⟩
  | .clock _ => ⟨"dyn exec_testhost::clock::Clock"⟩
  | .eventLog _ => ⟨"dyn exec_testhost::event_log::EventLog"⟩
  | .lifetime _ => ⟨"exec_testhost::lifetime::HostLifetime"⟩
  | .environment _ => ⟨"exec_testhost::host::HostEnvironment"⟩

/-- A host in the making. -/
structure Builder (V F H : Type) where
  settings : Settings
  registry : Registry V F
  hooks : List (Hook H)
  clock : ClockChoice V
  eventLog : Option V
  firstError : Option ConfigurationError

/-- What a builder makes of a host: its settings and registry, its lifetime with the hooks, and the
event log that it makes for itself, if any. -/
structure Blueprint (V F H W : Type) where
  settings : Settings
  registry : Registry V F
  lifetime : Lifetime H W
  eventLog : Option EventLog

namespace Builder

variable {V F H W : Type}

/-- An empty builder, with a clock of its own. -/
def new (clock : Nat) : Builder V F H := ⟨default, .empty, [], .fake clock, none, none⟩

/-- Keeps the first error; later ones are only reported. -/
def recordError (b : Builder V F H) (e : ConfigurationError) : Builder V F H × List Trace.Event :=
  match b.firstError with
  | none => ({ b with firstError := some e }, [])
  | some _ => (b, [.configurationErrorIgnored e.message])

/-- Sets the settings. -/
def withSettings (b : Builder V F H) (s : Settings) : Builder V F H := { b with settings := s }

/-- Sets the settings of a TOML document, or keeps its error. -/
def withToml (b : Builder V F H) (text : String) : Builder V F H × List Trace.Event :=
  match Settings.ofToml text with
  | .ok s => ({ b with settings := s }, [])
  | .error e => b.recordError (.settings e)

/-- Lets `configure` go about the registry, and keeps the error that it ends with, if any. What it
registered before the error stays registered. -/
def configureServices {m : Type → Type} [Monad m] (b : Builder V F H)
    (configure : Registry V F → m (Registry V F × Except RegistrationError Unit)) :
    m (Builder V F H × List Trace.Event) := do
  let (registry, result) ← configure b.registry
  let b := { b with registry := registry }
  match result with
  | .ok () => return (b, [])
  | .error e => return b.recordError (.registration e)

/-- Sets a clock that moves by hand. -/
def withFakeClock (b : Builder V F H) (clock : Nat) : Builder V F H :=
  { b with clock := .fake clock }

/-- Sets any clock. -/
def withClock (b : Builder V F H) (source : TimeSource) (service : V) : Builder V F H :=
  { b with clock := .custom source service }

/-- Sets an event log in place of the host's own. -/
def withEventLog (b : Builder V F H) (service : V) : Builder V F H :=
  { b with eventLog := some service }

/-- Adds a hook. -/
def addHook (b : Builder V F H) (hook : Hook H) : Builder V F H :=
  { b with hooks := b.hooks ++ [hook] }

/-- A registration in the course of an action that reports it. -/
def registerReporting (key : Capability) (e : Entry V F) (r : Registry V F) :
    ExceptT RegistrationError (StateM (List Trace.Event)) (Registry V F) :=
  match r.register key e with
  | .error e => throw e
  | .ok r => do
    modify (· ++ [.serviceRegistered key.typeName e.lifetime.text])
    return r

/-- The built-in services in the order in which they are installed: the two that are there only for
the builder's own clock and log come first. `mint` makes the service of a built-in one, and `log`
and `lifetime` say where the log and the lifetime of the host are kept. -/
def builtIns (b : Builder V F H) (mint : BuiltIn → V) (log lifetime : Nat) :
    List (Capability × V) :=
  let own := fun (x : BuiltIn) => (x.capability, mint x)
  let clock := match b.clock with
    | .fake c => ([own (.fakeClock c)], own (.clock (.fake c)))
    | .custom source service => ([], ((BuiltIn.clock source).capability, service))
  let eventLog := match b.eventLog with
    | none => ([own (.memoryLog log)], own (.eventLog log))
    | some service => ([], ((BuiltIn.eventLog log).capability, service))
  clock.1 ++ eventLog.1 ++
    [clock.2, eventLog.2, own (.lifetime lifetime), own (.environment b.settings)]

/-- Registers the hooks with a new lifetime. -/
def lifetimeOf (b : Builder V F H) : Lifetime H W := ⟨.running, b.hooks, []⟩

/-- Builds the host: the first error of the steps, else the first bad setting, else the first
built-in service whose capability is taken. -/
def build (b : Builder V F H) (mint : BuiltIn → V) (log lifetime : Nat) :
    ExceptT ConfigurationError (StateM (List Trace.Event)) (Blueprint V F H W) := do
  match b.firstError with
  | some e =>
    modify (· ++ [.configurationRejected e.message])
    throw e
  | none =>
    match b.settings.validate with
    | .error e => throw (.settings e)
    | .ok _ =>
      modify (· ++ b.hooks.map fun hook => .hookRegistered hook.label)
      let registry ← ExceptT.adapt .registration
        ((b.builtIns mint log lifetime).foldlM
          (fun r x => registerReporting x.1 (.fixed x.2) r) b.registry)
      modify (· ++ [.hostBuilt b.settings.hostName registry.size b.hooks.length])
      let eventLog := match b.eventLog with
        | none => some (EventLog.empty b.clock.source b.settings.eventLogCapacity)
        | some _ => none
      return ⟨b.settings, registry, b.lifetimeOf, eventLog⟩

/-- Builds the host in the state around it, where what is done is reported and what is built is put. -/
def raise {σ : Type} (b : Builder V F H) (mint : BuiltIn → V) (log lifetime : Nat)
    (report : Trace.Event → StateM σ Unit) (put : Blueprint V F H W → StateM σ Host) :
    StateM σ (Except ConfigurationError Host) := do
  let (result, events) := (b.build mint log lifetime).run.run []
  events.forM report
  match result with
  | .error e => return .error e
  | .ok p => return .ok (← put p)

/-- The builder as a dump. -/
def dump (b : Builder V F H) : Dump :=
  .record "TestServiceHostBuilder" [("settings", b.settings.dump),
    ("service_count", .nat b.registry.size), ("hook_count", .nat b.hooks.length),
    ("custom_clock", .bool b.clock.isCustom), ("custom_event_log", .bool b.eventLog.isSome),
    ("first_error", .option (b.firstError.map ConfigurationError.dump))]

/-- The first error of a builder stays its first error. -/
theorem firstError_recordError (b : Builder V F H) (e : ConfigurationError) :
    (b.recordError e).1.firstError = some (b.firstError.getD e) := by
  unfold recordError
  cases h : b.firstError with
  | none => rfl
  | some first => simp [h]

end Builder

end HostBench
