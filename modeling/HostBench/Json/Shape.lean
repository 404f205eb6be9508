/-
  Typed payloads: nine shapes of values, each written as JSON and read back, with the words for
  what does not fit.
-/
import HostBench.Json.Basic
import HostBench.Text.Quoted

namespace HostBench

/-- The payload of an event that says that a job has started. -/
structure JobStarted where
  job : String
  attempt : UInt32
  deriving DecidableEq

/-- A shape of payloads. -/
inductive Shape where
  | byte
  | word
  | integer
  | boolean
  | string
  | optionalByte
  | bytes
  | unit
  | job

namespace Shape

/-- The values of a shape. -/
abbrev Value : Shape → Type
  | .byte => UInt8
  | .word => UInt64
  | .integer => Int64
  | .boolean => Bool
  | .string => String
  | .optionalByte => Option UInt8
  | .bytes => List UInt8
  | .unit => Unit
  | .job => JobStarted

/-- A byte as JSON. -/
def writeByte (b : UInt8) : Json := .int b.toNat

/-- A job payload as JSON: an object of its fields. -/
def writeJob (j : JobStarted) : Json :=
  .ofEntries [("job", .string j.job), ("attempt", .int j.attempt.toNat)]

/-- A value as JSON; nothing and the unit are null, and a record is an object of its fields. -/
def write : (s : Shape) → s.Value → Json
  | .byte, b => writeByte b
  | .word, w => .int w.toNat
  | .integer, n => .int n.toInt
  | .boolean, b => .bool b
  | .string, s => .string s
  | .optionalByte, o => (o.map writeByte).getD .null
  | .bytes, bs => .array (bs.map writeByte)
  | .unit, _ => .null
  | .job, j => writeJob j

/-! ## Reading, and what does not fit -/

/-- What a JSON value is called when another kind is expected. -/
def found : Json → String
  | .null => "null"
  | .bool b => "boolean `" ++ (if b then "true" else "false") ++ "`"
  | .int n => "integer `" ++ toString n ++ "`"
  | .float x => "floating point `" ++ x.text Json.numberStyle ++ "`"
  | .string s => "string " ++ Text.quoted s
  | .array _ => "sequence"
  | .object _ => "map"

/-- A value of the wrong kind. -/
def invalidType (v : Json) (expected : String) : String :=
  "invalid type: " ++ found v ++ ", expected " ++ expected

/-- A whole number outside its type. -/
def invalidValue (v : Json) (expected : String) : String :=
  "invalid value: " ++ found v ++ ", expected " ++ expected

/-- An array of the wrong length. -/
def invalidLength (n : Nat) (expected : String) : String :=
  "invalid length " ++ Nat.repr n ++ ", expected " ++ expected

/-- A whole number from `low` up to below `high`, of a type that is called `expected`. -/
def readInt (expected : String) (low high : Int) (v : Json) : Except String Int :=
  match v with
  | .int n => if low ≤ n ∧ n < high then .ok n else .error (invalidValue v expected)
  | v => .error (invalidType v expected)

/-- A byte. -/
def readByte (v : Json) : Except String UInt8 :=
  (readInt "u8" 0 256 v).map fun n => UInt8.ofNat n.toNat

/-- A string. -/
def readString (v : Json) : Except String String :=
  match v with
  | .string s => .ok s
  | v => .error (invalidType v "a string")

/-- The number of an attempt. -/
def readAttempt (v : Json) : Except String UInt32 :=
  (readInt "u32" 0 4294967296 v).map fun n => UInt32.ofNat n.toNat

/-- A field that has to be there. -/
def required {α : Type} (name : String) : Option α → Except String α
  | some a => .ok a
  | none => .error ("missing field `" ++ name ++ "`")

/-- Takes in one entry of an object that is read as a job payload; unknown entries are passed over. -/
def readJobEntry (fields : Option String × Option UInt32) (entry : String × Json) :
    Except String (Option String × Option UInt32) :=
  match entry with
  | ("job", v) => (readString v).map fun name => (some name, fields.2)
  | ("attempt", v) => (readAttempt v).map fun attempt => (fields.1, some attempt)
  | _ => .ok fields

/-- A job payload: an object, or an array of its fields. -/
def readJob (v : Json) : Except String JobStarted :=
  match v with
  | .object entries => do
    let fields ← entries.foldlM readJobEntry (none, none)
    let name ← required "job" fields.1
    let attempt ← required "attempt" fields.2
    return ⟨name, attempt⟩
  | .array [] => .error (invalidLength 0 "struct JobStarted with 2 elements")
  | .array [first] => do
    let _ ← readString first
    .error (invalidLength 1 "struct JobStarted with 2 elements")
  | .array (first :: second :: rest) => do
    let name ← readString first
    let attempt ← readAttempt second
    if rest.isEmpty then return ⟨name, attempt⟩
    else .error (invalidLength (rest.length + 2) "fewer elements in array")
  | v => .error (invalidType v "struct JobStarted")

/-- The value of a shape that JSON writes, or what is wrong with it. -/
def read : (s : Shape) → Json → Except String s.Value
  | .byte, v => readByte v
  | .word, v => (readInt "u64" 0 18446744073709551616 v).map fun n => UInt64.ofNat n.toNat
  | .integer, v =>
    (readInt "i64" (-9223372036854775808) 9223372036854775808 v).map fun n => Int64.ofInt n
  | .boolean, v => match v with
    | .bool b => .ok b
    | v => .error (invalidType v "a boolean")
  | .string, v => readString v
  | .optionalByte, v => match v with
    | .null => .ok none
    | v => (readByte v).map some
  | .bytes, v => match v with
    | .array items => items.mapM readByte
    | v => .error (invalidType v "a sequence")
  | .unit, v => match v with
    | .null => .ok ()
    | v => .error (invalidType v "unit")
  | .job, v => readJob v

end Shape

end HostBench
