/-
  The commands of a scenario. Objects are spoken of by name, one set of names for each sort of
  object, and callbacks are written as lists of commands.
-/
import HostBench.Adapter
import HostBench.Scenario.Key

namespace HostBench.Scenario

/-- Commands on clocks. -/
inductive ClockCommand where
  /-- A clock that moves by hand and can move so far before the end of the time line. -/
  | create (name : String) (headroom : Duration)
  | copy (name target : String)
  /-- The same clock, but only as a clock of any kind. -/
  | hide (name target : String)
  | system (name : String)
  | now (name : String)
  | advance (name : String) (delta : Duration)
  | elapsed (name : String)
  | pending (name : String)
  | debug (name : String) (pretty : Bool)
  | sleep (name future : String) (length : Duration)

/-- Commands on futures. -/
inductive FutureCommand where
  | poll (future waker : String)
  | drop (future : String)

/-- Commands on event logs. -/
inductive LogCommand where
  | create (name clock : String) (capacity : Option Nat)
  | append (name stream kind : String) (payload : Payload)
  | read (name stream : String) (first : Nat)
  | all (name : String)
  | size (name : String)
  | debug (name : String) (pretty : Bool)
  | capacity (name : String)
  | decode (name : String) (sequence : Nat) (shape : Shape)

/-- How a fallback answers once its commands have run. -/
inductive Response where
  /-- The request itself. -/
  | echo
  | fixed (v : Json)
  | failing (e : AdapterError)

/-- A fallback: what it runs, and how it answers. -/
structure Fallback (C : Type) where
  run : List C
  response : Response

/-- Commands on scripted adapters; `C` are the commands of a fallback. -/
inductive AdapterCommand (C : Type) where
  | create (name adapter : String)
  | copy (name target : String)
  | respond (name : String) (responses : List Json)
  | fail (name message : String)
  | call (name : String) (request : Json)
  | calls (name : String)
  | info (name : String)
  | debug (name : String) (pretty : Bool)
  | fallback (name : String) (f : Fallback C)

/-- What a registration offers: a value as it is written, a probe with the commands that run when it
is dropped, or the object of a name. -/
inductive Offer (C : Type) where
  | plain (v : Json)
  | string (s : String)
  | probe (label : String) (run : List C)
  | object (kind : ValueKind) (name : String)

/-- How a factory fails on its first calls. -/
structure FactoryFailure where
  times : Nat
  error : ResolveError

/-- A registration: the key, how the service comes into being, what is offered, and for a factory
what it runs, what it resolves and how it fails. -/
structure Registration (C : Type) where
  key : Key
  lifetime : ServiceLifetime
  offer : Offer C
  run : List C
  needs : List Key
  failure : FactoryFailure

/-- Commands on registries. -/
inductive RegistryCommand (C : Type) where
  | create (name : String)
  | copy (name target : String)
  | drop (name : String)
  | add (name : String) (r : Registration C)
  | contains (name : String) (key : Key)
  | info (name : String) (pretty : Bool)

/-- Commands on builders. -/
inductive BuilderCommand (C : Type) where
  | create (name : String)
  | settings (name : String) (s : Settings)
  | toml (name text : String)
  | fakeClock (name clock : String)
  | clock (name clock : String)
  | log (name log : String)
  | registry (name registry : String)
  | services (name : String) (rs : List (Registration C)) (ignoreErrors : Bool)
  | hook (name : String) (h : Hook (List C))
  | debug (name : String) (pretty : Bool)
  | drop (name : String)
  | build (name host : String) (pretty : Bool)

/-- Commands on hosts that do not wait. -/
inductive HostCommand where
  | info (name : String) (pretty : Bool)
  | provider (name provider : String)
  | lifetime (name lifetime : String)
  | drop (name : String)

/-- Commands on providers. -/
inductive ProviderCommand where
  | get (name : String) (key : Key) (handle : Option String)
  | tryGet (name : String) (key : Key) (handle : Option String)
  | contains (name : String) (key : Key)
  | types (name : String)
  | info (name : String) (pretty : Bool)
  /-- So many resolutions at the same time. -/
  | concurrent (name : String) (key : Key) (count : Nat)
  | fakeClock (name clock : String)
  | clock (name clock : String) (originOf : Option String)
  | log (name log : String) (originOf : Option String)
  | lifetime (name lifetime : String)

/-- Commands on the services that are kept as handles. -/
inductive HandleCommand where
  | show (name : String)
  | same (left right : String)
  | drop (name : String)

/-- Commands on lifetimes. -/
inductive LifetimeCommand (C : Type) where
  | info (name : String) (pretty : Bool)
  | hook (name : String) (h : Hook (List C))
  | wait (name future : String) (goal : Goal)
  /-- A task in the background that waits and then reads the phase. -/
  | watch (name task : String) (goal : Goal)

/-- Commands that a hook or the body of a scope may use besides all others. -/
inductive RoutineCommand (C : Type) where
  | sleep (length : Duration)
  | clockSleep (clock : String) (length : Duration)
  | pending
  | wait (lifetime : String) (goal : Goal)
  | fail (message : String)
  | panic (message : String)
  /-- A command whose error is the error of the hook. -/
  | must (c : C)

/-- Commands that wait on the timer until they are done. -/
inductive BlockingCommand (C : Type) where
  | sleep (clock : String) (length : Duration)
  | scoped (builder provider lifetime : String) (run : List C)
  | dispose (host : String)
  | disposeWithin (host : String) (limit : Duration)
  | join (task : String)

/-- A command. -/
inductive Command where
  | clock (c : ClockCommand)
  | future (c : FutureCommand)
  | log (c : LogCommand)
  | adapter (c : AdapterCommand Command)
  | registry (c : RegistryCommand Command)
  | builder (c : BuilderCommand Command)
  | host (c : HostCommand)
  | provider (c : ProviderCommand)
  | handle (c : HandleCommand)
  | lifetime (c : LifetimeCommand Command)
  /-- From now on waking this tag runs these commands. -/
  | onWake (waker : String) (run : List Command)
  | note (v : Json)
  /-- A task in the background that runs these commands after a while. -/
  | spawn (delay : Duration) (run : List Command)
  | routine (c : RoutineCommand Command)
  | blocking (c : BlockingCommand Command)
  /-- A command that is not understood, and why. -/
  | malformed (message : String)

instance : Inhabited Command := ⟨.malformed ""⟩

/-- How a routine command is written. -/
def RoutineCommand.name {C : Type} : RoutineCommand C → String
  | .sleep _ => "sleep"
  | .clockSleep .. => "clock_sleep"
  | .pending => "pending"
  | .wait _ .stopping => "wait_stopping"
  | .wait _ .stopped => "wait_stopped"
  | .fail _ => "fail"
  | .panic _ => "panic"
  | .must _ => "must"

/-- How a blocking command is written. -/
def BlockingCommand.name {C : Type} : BlockingCommand C → String
  | .sleep .. => "clock.await"
  | .scoped .. => "scoped"
  | .dispose _ => "h.dispose"
  | .disposeWithin .. => "h.dispose_within"
  | .join _ => "t.join"

end HostBench.Scenario
