/-
  What a scenario answers: the answer of each step, why a step failed, and what is noted while a
  step runs.
-/
import HostBench.Adapter
import HostBench.Builder

namespace HostBench.Scenario

/-- Why a step failed. -/
inductive Failure where
  | settings (e : SettingsError)
  | configuration (e : ConfigurationError)
  | registration (e : RegistrationError)
  | disposed (e : DisposedError)
  | resolve (e : ResolveError)
  | log (e : LogError)
  | adapter (e : AdapterError)
  | hook (e : HookError)
  /-- The step speaks of an object that does not exist. -/
  | absent (sort name : String)
  /-- The step is not understood. -/
  | badInput (message : String)
  /-- A routine panicked. -/
  | panicked (message : String)

namespace Failure

/-- The failure in words. -/
def message : Failure → String
  | .settings e => e.message
  | .configuration e => e.message
  | .registration e => e.message
  | .disposed e => e.message
  | .resolve e => e.message
  | .log e => e.message
  | .adapter e => e.message
  | .hook e => e.message
  | .absent sort name => "no " ++ sort ++ " " ++ name
  | .badInput message => message
  | .panicked message => message

/-- What stands behind the failure, the nearest cause first. -/
def causes : Failure → List String
  | .configuration e => e.causes
  | .log e => e.causes
  | _ => []

/-- The failure as a dump. -/
def dump : Failure → Dump
  | .settings e => e.dump
  | .configuration e => e.dump
  | .registration e => e.dump
  | .disposed e => e.dump
  | .resolve e => e.dump
  | .log e => e.dump
  | .adapter e => e.dump
  | .hook e => e.dump
  | e => .text e.message

/-- The type of the failure and its kind within that type, as answers give them. -/
def kind : Failure → String × String
  | .settings (.parse _) => ("SettingsError", "Parse")
  | .settings (.invalid ..) => ("SettingsError", "Invalid")
  | .configuration (.registration _) => ("ConfigurationError", "Registration")
  | .configuration (.settings (.parse _)) => ("ConfigurationError", "Settings::Parse")
  | .configuration (.settings (.invalid ..)) => ("ConfigurationError", "Settings::Invalid")
  | .registration (.duplicate _) => ("ServiceRegistrationError", "Duplicate")
  | .disposed _ => ("DisposedStateError", "")
  | .resolve (.notRegistered _) => ("ResolveError", "NotRegistered")
  | .resolve (.factory ..) => ("ResolveError", "Factory")
  | .resolve (.disposed _) => ("ResolveError", "Disposed")
  | .log (.capacityExceeded _) => ("EventLogError", "CapacityExceeded")
  | .log (.codec _) => ("EventLogError", "Codec")
  | .adapter (.unscripted ..) => ("MockAdapterError", "Unscripted")
  | .adapter (.scripted ..) => ("MockAdapterError", "Scripted")
  | .hook _ => ("HookError", "")
  | .absent .. => ("Absent", "")
  | .badInput _ => ("BadInput", "")
  | .panicked _ => ("panic", "")

/-- The type and the kind in one. -/
def kindText (f : Failure) : String :=
  if f.kind.2.isEmpty then f.kind.1 else f.kind.1 ++ "::" ++ f.kind.2

/-- The failure under a name, as the fields of an answer. -/
def fields (f : Failure) (name : String) : List (String × Json) :=
  [("error", .string name), ("message", .string f.message)] ++
    if f.causes.isEmpty then [] else [("chain", .array (f.causes.map .string))]

end Failure

/-- The answer of a step. -/
abbrev Answer := Except Failure Json

/-- An answer as fields. -/
def answerFields : Answer → List (String × Json)
  | .ok v => [("ok", v)]
  | .error f => f.fields f.kindText

/-- Who runs a command that is no step of its own. -/
inductive Source where
  | hook (label : String)
  | factory (key : String)
  | wake (waker : String)
  | drop (label : String)
  | fallback
  | body
  | task
  deriving DecidableEq

/-- The source in the journal. -/
def Source.text : Source → String
  | .hook label => "hook " ++ label
  | .factory key => "factory " ++ key
  | .wake waker => "wake " ++ waker
  | .drop label => "drop " ++ label
  | .fallback => "fallback"
  | .body => "body"
  | .task => "task"

/-- What is noted while a step runs. -/
inductive JournalEntry where
  /-- A value that a command notes. -/
  | note (v : Json)
  /-- The answer of a command that someone else ran. -/
  | answered (source : Source) (answer : Answer)
  /-- A factory has been called for the `count`th time. -/
  | factoryCalled (source : Source) (count : Nat)
  /-- The services of a builder have been registered. -/
  | registered (size : Nat) (registry : Dump)

/-- An entry of the journal as JSON. -/
def JournalEntry.json : JournalEntry → Json
  | .note v => v
  | .answered source answer => .array [.string source.text, .ofEntries (answerFields answer)]
  | .factoryCalled source count => .array [.string source.text, .int count]
  | .registered size registry =>
    .array [.string "registered", .int size, .string registry.line]

/-- What comes of one step: its answer, and what happened while it ran. -/
structure Outcome where
  answer : Answer
  journal : List JournalEntry
  woken : List String
  signalled : List String
  dropped : List String
  events : List Trace.Event

/-! ## Values as JSON -/

/-- A duration: its nanoseconds in decimal digits. -/
def durationJson (d : Duration) : Json := .string (Nat.repr d.toNanos)

/-- A number that may be missing. -/
def optionJson (n : Option Nat) : Json := (n.map fun n => Json.int n).getD .null

/-- Host settings. -/
def settingsJson (s : Settings) : Json :=
  .ofEntries [("host_name", .string s.hostName), ("timeout", durationJson s.shutdownTimeout),
    ("capacity", optionJson s.eventLogCapacity)]

/-- A record of an event log; its time is given as the time since `origin`, where both are known. -/
def recordJson (origin : Option Instant) (r : EventRecord) : Json :=
  let time := match origin, r.recordedAt with
    | some origin, some t => durationJson (t.since origin)
    | _, _ => .null
  .ofEntries [("seq", .int r.sequence), ("stream", .string r.stream), ("kind", .string r.kind),
    ("payload", r.payload), ("at", time)]

/-- What became of a hook. -/
def statusJson : HookStatus → Json
  | .completed => .string "completed"
  | .timedOut => .string "timed_out"
  | .failed e => .ofEntries [("failed", .string e.inner), ("display", .string e.message)]

/-- The report of a shutdown. -/
def reportJson (r : ShutdownReport) : Json :=
  .ofEntries [("records", .array (r.records.map fun x =>
      .ofEntries [("label", .string x.label), ("status", statusJson x.status),
        ("elapsed", durationJson x.elapsed)])),
    ("released", .int r.released), ("clean", .bool r.isClean)]

end HostBench.Scenario
