/-
  The settings of a host, their checks, and their reading from a TOML document. Main statement:
  `validate` accepts exactly the settings without a bad field (`validate_eq_ok_iff`).
-/
import HostBench.Decimal.Shortest
import HostBench.Duration
import HostBench.Text.Blank
import HostBench.Text.Dump
import HostBench.Toml.Document

namespace HostBench

/-- The setting that a check refuses. -/
inductive Setting where
  | hostName
  | shutdownTimeout
  | eventLogCapacity
  deriving DecidableEq

namespace Setting

/-- The name of a setting in messages. -/
def name : Setting → String
  | .hostName => "host_name"
  | .shutdownTimeout => "shutdown_timeout"
  | .eventLogCapacity => "event_log_capacity"

/-- What is demanded of a setting. -/
def demand : Setting → String
  | .hostName => "must not be empty"
  | .shutdownTimeout => "must be greater than zero"
  | .eventLogCapacity => "must be greater than zero when set"

end Setting

/-- Why settings are rejected. -/
inductive SettingsError where
  /-- The document cannot be read. -/
  | parse (reason : String)
  /-- A setting has a value that is not allowed. -/
  | invalid (field reason : String)
  deriving DecidableEq

namespace SettingsError

/-- The refusal of a setting. -/
def refused (s : Setting) : SettingsError := .invalid s.name s.demand

/-- The error in words. -/
def message : SettingsError → String
  | .parse reason => "host settings could not be parsed: " ++ reason
  | .invalid field reason => "host setting `" ++ field ++ "` is invalid: " ++ reason

/-- The error as a dump. -/
def dump : SettingsError → Dump
  | .parse reason => .record "Parse" [("reason", .string reason)]
  | .invalid field reason =>
    .record "Invalid" [("field", .string field), ("reason", .string reason)]

end SettingsError

/-- How a host is called, how long a shutdown hook may take, and how many records the event log of
the host holds. -/
structure Settings where
  hostName : String
  shutdownTimeout : Duration
  eventLogCapacity : Option Nat
  deriving DecidableEq

namespace Settings

/-- The settings of a host that nothing is said about. -/
def default : Settings := ⟨"exec-testhost", .ofSeconds 5, none⟩

instance : Inhabited Settings := ⟨default⟩

/-- The settings as a dump. -/
def dump (s : Settings) : Dump :=
  .record "HostSettings" [("host_name", .string s.hostName),
    ("shutdown_timeout", .text s.shutdownTimeout.text),
    ("event_log_capacity", .option (s.eventLogCapacity.map .nat))]

/-- The first setting, in the order of the fields, that has no allowed value. -/
def badSetting? (s : Settings) : Option Setting :=
  if Text.allBlank s.hostName then some .hostName
  else if s.shutdownTimeout.isZero then some .shutdownTimeout
  else if s.eventLogCapacity == some 0 then some .eventLogCapacity
  else none

/-- Refuses settings with a bad field. -/
def validate (s : Settings) : Except SettingsError Settings :=
  match s.badSetting? with
  | some bad => .error (.refused bad)
  | none => .ok s

theorem validate_eq_ok_iff {s t : Settings} :
    s.validate = .ok t ↔ s.badSetting? = none ∧ t = s := by
  unfold validate
  cases s.badSetting? <;> simp [eq_comm]

/-! ## Reading -/

/-- Refused numbers are written in positional notation, and a tie goes up. -/
def numberStyle : DecimalStyle := ⟨.up, none⟩

/-- What a value is called when another kind is expected. -/
def found : Toml.Value → String
  | .string s => "string " ++ Text.quoted s
  | .integer n => "integer `" ++ toString n ++ "`"
  | .float x => "floating point `" ++ x.text numberStyle ++ "`"
  | .boolean b => "boolean `" ++ (if b then "true" else "false") ++ "`"
  | .array _ => "sequence"
  | .moment => "map"
  | .table _ => "map"

/-- The refusal of a value of the wrong kind. -/
def invalidType (v : Toml.Value) (expected : String) : SettingsError :=
  .parse ("invalid type: " ++ found v ++ ", expected " ++ expected)

/-- A string. -/
def readString (v : Toml.Value) : Except SettingsError String :=
  match v with
  | .string s => .ok s
  | v => .error (invalidType v "a string")

/-- A number that is not negative, of a type that is called `expected`. -/
def readNat (expected : String) (v : Toml.Value) : Except SettingsError Nat :=
  match v with
  | .integer n =>
    if 0 ≤ n then .ok n.toNat
    else .error (.parse ("invalid value: " ++ found (.integer n) ++ ", expected " ++ expected))
  | v => .error (invalidType v expected)

/-- The reason that is given for a document that is not TOML. -/
def syntaxReason : String := "<toml syntax>"

/-- The reason that is given for a key that no setting has. Only the last line of the report is
given, and only where that line still says what is wrong. -/
def unknownField (key : String) : SettingsError :=
  if key.toList.contains '\n' then .parse (lastLine key)
  else .parse (report key)
where
  report (key : String) : String :=
    "unknown field `" ++ key ++
      "`, expected one of `host_name`, `shutdown_timeout_ms`, `event_log_capacity`"
  lastLine (key : String) : String :=
    let line := String.ofList ((report key).toList.reverse.takeWhile (· != '\n')).reverse
    if line.startsWith "unknown field " || line.startsWith "invalid type: " ||
        line.startsWith "invalid value: " then line
    else syntaxReason

/-- Takes in one top-level entry of a document. -/
def readEntry (s : Settings) (entry : String × Toml.Value) : Except SettingsError Settings :=
  match entry with
  | ("host_name", v) => (readString v).map fun name => { s with hostName := name }
  | ("shutdown_timeout_ms", v) =>
    (readNat "u64" v).map fun ms => { s with shutdownTimeout := .ofMillis ms }
  | ("event_log_capacity", v) =>
    (readNat "usize" v).map fun n => { s with eventLogCapacity := some n }
  | (key, _) => .error (unknownField key)

/-- The settings of a document: its entries in document order over the defaults, checked at last. -/
def ofToml (text : String) : Except SettingsError Settings :=
  match Toml.document? text with
  | none => .error (.parse syntaxReason)
  | some entries => (entries.foldlM readEntry default).bind validate

end Settings

end HostBench
