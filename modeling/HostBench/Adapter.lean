/-
  A scripted stand-in for an outside system. It keeps the requests made of it; it answers from a
  script first and by a fallback after that.
-/
import HostBench.Place
import HostBench.Text.Dump

namespace HostBench

/-- Why a call of an adapter fails. -/
inductive AdapterError where
  /-- Neither the script nor a fallback has an answer for the call. -/
  | unscripted (adapter : String) (callIndex : Nat)
  /-- The script says that the call fails. -/
  | scripted (adapter message : String)
  deriving DecidableEq

namespace AdapterError

/-- The error in words. -/
def message : AdapterError → String
  | .unscripted adapter callIndex =>
    "mock adapter `" ++ adapter ++ "` has no response scripted for call #" ++ Nat.repr callIndex
  | .scripted adapter message =>
    "mock adapter `" ++ adapter ++ "` returned scripted failure: " ++ message

/-- The error as a dump. -/
def dump : AdapterError → Dump
  | .unscripted adapter callIndex =>
    .record "Unscripted" [("adapter", .string adapter), ("call_index", .nat callIndex)]
  | .scripted adapter message =>
    .record "Scripted" [("adapter", .string adapter), ("message", .string message)]

end AdapterError

/-- One entry of a script. -/
inductive Scripted (Resp : Type) where
  | respond (r : Resp)
  | fail (message : String)

/-- An adapter with requests `Req`, responses `Resp` and fallbacks `F`. -/
structure Adapter (Req Resp F : Type) where
  name : String
  script : List (Scripted Resp)
  fallback : Option F
  calls : List Req

/-- How the adapter goes about a call. -/
inductive Reply (Resp F : Type) where
  /-- The answer is known. -/
  | done (result : Except AdapterError Resp)
  /-- The fallback is to answer. -/
  | ask (fallback : F)

namespace Adapter

variable {Req Resp F : Type}

/-- An adapter without a script. -/
def named (name : String) : Adapter Req Resp F := ⟨name, [], none, []⟩

instance : Inhabited (Adapter Req Resp F) := ⟨named ""⟩

/-- Adds an entry at the end of the script. -/
def push (a : Adapter Req Resp F) (s : Scripted Resp) : Adapter Req Resp F :=
  { a with script := a.script ++ [s] }

/-- Sets the fallback. -/
def setFallback (a : Adapter Req Resp F) (f : F) : Adapter Req Resp F :=
  { a with fallback := some f }

/-- What becomes of a request: it is recorded, the first entry of the script is used up, and
without one the fallback that is set now is to answer. -/
def begin (a : Adapter Req Resp F) (request : Req) : Adapter Req Resp F × Reply Resp F :=
  let a := { a with calls := a.calls ++ [request] }
  match a.script with
  | .respond r :: rest => ({ a with script := rest }, .done (.ok r))
  | .fail message :: rest => ({ a with script := rest }, .done (.error (.scripted a.name message)))
  | [] => match a.fallback with
    | some f => (a, .ask f)
    | none => (a, .done (.error (.unscripted a.name (a.calls.length - 1))))

/-- Calls the adapter at a place. The request is recorded before a fallback answers, and the
fallback may do anything with the state, the adapter included. -/
def call {σ : Type} (place : Place σ (Adapter Req Resp F))
    (report : String → Nat → StateM σ Unit)
    (answer : F → Req → StateM σ (Except AdapterError Resp)) (request : Req) :
    StateM σ (Except AdapterError Resp) := do
  let (a, reply) := (← place.read).begin request
  place.write a
  report a.name (a.calls.length - 1)
  match reply with
  | .done result => return result
  | .ask f => answer f request

/-- Every call is recorded, whatever comes of it. -/
theorem calls_begin (a : Adapter Req Resp F) (request : Req) :
    (a.begin request).1.calls = a.calls ++ [request] := by
  unfold begin
  cases a.script with
  | nil => cases a.fallback <;> rfl
  | cons s rest => cases s <;> rfl

/-- A call uses up the first entry of the script, if there is one. -/
theorem script_begin (a : Adapter Req Resp F) (request : Req) :
    (a.begin request).1.script = a.script.tail := by
  unfold begin
  cases h : a.script with
  | nil => cases a.fallback <;> simp
  | cons s rest => cases s <;> rfl

/-- The adapter as a dump. -/
def dump (a : Adapter Req Resp F) : Dump :=
  .record "MockAdapter" [("name", .string a.name), ("scripted", .nat a.script.length),
    ("has_fallback", .bool a.fallback.isSome), ("calls", .nat a.calls.length)]

end Adapter

end HostBench
