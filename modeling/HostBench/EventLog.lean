/-
  An event log in memory: records in the order of appending, numbered from zero over all streams,
  each with the time at which it was appended. A log with room for a record takes it, and no other
  does (`append_eq_ok_iff`).
-/
import HostBench.Instant
import HostBench.Json.Shape
import HostBench.Text.Dump

namespace HostBench

/-- Where a time comes from: a clock that moves by hand, or the system's own. -/
inductive TimeSource where
  | fake (clock : Nat)
  | system
  deriving DecidableEq

/-- One record of an event log. The time is missing where the system's own clock gave it. -/
structure EventRecord where
  sequence : Nat
  stream : String
  kind : String
  payload : Json
  recordedAt : Option Instant

/-- An event log: the clock it reads, how many records it holds at most, and its records. -/
structure EventLog where
  source : TimeSource
  capacity : Option Nat
  records : List EventRecord

/-- Why an event log refuses. -/
inductive LogError where
  /-- There is no room for another record. -/
  | capacityExceeded (capacity : Nat)
  /-- A payload cannot be written as JSON or read from it. -/
  | codec (reason : String)
  deriving DecidableEq

namespace LogError

/-- The error in words. -/
def message : LogError → String
  | .capacityExceeded capacity =>
    "event log capacity of " ++ Nat.repr capacity ++ " records exhausted"
  | .codec reason => "event payload codec failed: " ++ reason

/-- What stands behind the error. -/
def causes : LogError → List String
  | .capacityExceeded _ => []
  | .codec reason => [reason]

/-- The error as a dump. -/
def dump : LogError → Dump
  | .capacityExceeded capacity => .record "CapacityExceeded" [("capacity", .nat capacity)]
  | .codec reason => .wrapped "Codec" (.string reason)

end LogError

/-- A payload before it is written as JSON. -/
inductive Payload where
  /-- JSON as it is. -/
  | json (v : Json)
  /-- A value of a shape. -/
  | shaped (s : Shape) (v : s.Value)
  /-- A floating point value that is no number. -/
  | notANumber
  /-- An object whose key is no string. -/
  | badKey

/-- A payload as JSON; what is no number is null. -/
def Payload.toJson : Payload → Except LogError Json
  | .json v => .ok v
  | .shaped s v => .ok (s.write v)
  | .notANumber => .ok .null
  | .badKey => .error (.codec "key must be a string")

/-- The payload of a record as a value of a shape. -/
def EventRecord.decode (r : EventRecord) (s : Shape) : Except LogError s.Value :=
  (s.read r.payload).mapError .codec

namespace EventLog

/-- A log without records. -/
def empty (source : TimeSource) (capacity : Option Nat) : EventLog := ⟨source, capacity, []⟩

/-- How many records the log has. -/
def size (l : EventLog) : Nat := l.records.length

/-- The record that comes next in the log. -/
def nextRecord (l : EventLog) (stream kind : String) (payload : Json) (now : Option Instant) :
    EventRecord := ⟨l.size, stream, kind, payload, now⟩

/-- Appends a record, unless the log is full. -/
def append (l : EventLog) (stream kind : String) (payload : Json) (now : Option Instant) :
    Except LogError (EventLog × EventRecord) :=
  match l.capacity.filter (· ≤ l.size) with
  | some capacity => .error (.capacityExceeded capacity)
  | none =>
    let r := l.nextRecord stream kind payload now
    .ok ({ l with records := l.records ++ [r] }, r)

/-- Appends what the writing of a payload as JSON has come to. Where that has failed, nothing is
appended, whether there is room or not. -/
def appendWritten (l : EventLog) (stream kind : String) (written : Except LogError Json)
    (now : Option Instant) : Except LogError (EventLog × EventRecord) :=
  written.bind fun v => l.append stream kind v now

/-- Writes a payload as JSON and appends it. -/
def appendPayload (l : EventLog) (stream kind : String) (payload : Payload) (now : Option Instant) :
    Except LogError (EventLog × EventRecord) :=
  l.appendWritten stream kind payload.toJson now

/-- The records of a stream from a number on. -/
def readStream (l : EventLog) (stream : String) (first : Nat) : List EventRecord :=
  l.records.filter fun r => r.stream == stream && first ≤ r.sequence

/-- The record with a number. -/
def record? (l : EventLog) (sequence : Nat) : Option EventRecord := l.records[sequence]?

/-- The log as a dump. -/
def dump (l : EventLog) : Dump :=
  .record "InMemoryEventLog" [("capacity", .option (l.capacity.map .nat)), ("len", .nat l.size)]

/-- A log takes a record exactly while it has room, and puts it at the end. -/
theorem append_eq_ok_iff {l l' : EventLog} {stream kind : String} {payload : Json}
    {now : Option Instant} {r : EventRecord} :
    l.append stream kind payload now = .ok (l', r) ↔
      (∀ capacity, l.capacity = some capacity → l.size < capacity) ∧
        r = l.nextRecord stream kind payload now ∧ l' = { l with records := l.records ++ [r] } := by
  have taken : (Except.ok ({ l with records := l.records ++ [l.nextRecord stream kind payload now] },
      l.nextRecord stream kind payload now) : Except LogError _) = .ok (l', r) ↔
      r = l.nextRecord stream kind payload now ∧ l' = { l with records := l.records ++ [r] } := by
    constructor
    · intro h
      cases h
      exact ⟨rfl, rfl⟩
    · rintro ⟨rfl, rfl⟩
      rfl
  unfold append
  cases limit : l.capacity with
  | none => simpa [limit] using taken
  | some capacity =>
    by_cases full : capacity ≤ l.size
    · simp [Option.filter, full, Nat.not_lt.mpr full]
    · simpa [Option.filter, full, limit, Nat.lt_of_not_le full] using taken

/-- What an append of a payload leaves, if it is taken: the log with one more record, which has the time
that was given. -/
theorem appendPayload_of_ok {l l' : EventLog} {stream kind : String} {payload : Payload}
    {now : Option Instant} {r : EventRecord}
    (taken : l.appendPayload stream kind payload now = .ok (l', r)) :
    (∃ v, r = l.nextRecord stream kind v now) ∧ l' = { l with records := l.records ++ [r] } := by
  unfold appendPayload appendWritten at taken
  cases written : payload.toJson with
  | error e =>
    rw [written] at taken
    cases taken
  | ok v =>
    rw [written] at taken
    obtain ⟨-, made, left⟩ := append_eq_ok_iff.mp taken
    exact ⟨⟨v, made⟩, left⟩

end EventLog

end HostBench
