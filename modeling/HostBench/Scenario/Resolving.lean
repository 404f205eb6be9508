/-
  Commands on providers and on the services that are kept as handles.
-/
import HostBench.Scenario.Hosting
import HostBench.Scenario.Recording

namespace HostBench.Scenario

/-- Resolves a key in the provider of a name. Whoever asks holds the service. -/
def resolveIn (cb : Callbacks) (name : String) (key : Key) :
    Try (Except ResolveError Service) := do
  let provider ← named (·.providerNames) "providers" name
  resolve cb provider key.capability

/-- What a resolved service shows. It is kept as a handle if there is a name for it, and let go
otherwise. -/
def showAndKeep (s : Service) (handle : Option String) : Act Json := do
  let v := s.shown (← get)
  if let some name := handle then
    modify fun w => { w with handleNames := w.handleNames.insert name s }
  letGo s
  return v

/-- Resolves the key of a kind of service, for what the service is. -/
def resolveContent (cb : Callbacks) (name : String) (b : BuiltIn) : Try Service := do
  let provider ← named (·.providerNames) "providers" name
  match ← resolve cb provider b.capability with
  | .error e => throw (.resolve e)
  | .ok s =>
    letGo s
    return s

/-- Where the event log in memory is kept that a provider offers, if it offers one. -/
def memoryBehind (cb : Callbacks) (name : String) : Act (Option Nat) := do
  match ← (resolveContent cb name (.memoryLog 0)).run with
  | .ok s => return s.log?
  | .error _ => return none

/-- The origin of the clock of a name, where both are known. -/
def originOf (w : World) (name : Option String) : Option Instant :=
  (name.bind w.clockNames.find?).bind (·.origin)

/-- So many resolutions of a key, none of which is let go before the last one is done. -/
def resolveMany (cb : Callbacks) (provider : Nat) (key : Capability) :
    Nat → Act (List Service × List ResolveError)
  | 0 => return ([], [])
  | n + 1 => do
    let result ← resolve cb provider key
    let (services, errors) ← resolveMany cb provider key n
    match result with
    | .ok s => return (s :: services, errors)
    | .error e => return (services, e :: errors)

/-- So many resolutions of a key at the same time. -/
def resolveAtOnce (cb : Callbacks) (provider : Nat) (key : Capability) (count : Nat) :
    Act (List Service × List ResolveError) := aside (resolveMany cb provider key count)

/-- The services of a list without those that are the same as an earlier one. -/
def distinct (services : List Service) : List Service :=
  services.foldl (fun seen s => if seen.any (·.same s) then seen else seen ++ [s]) []

/-- Takes back the holds of services. -/
def letAllGo (cb : Callbacks) (services : List Service) : Act Unit := do
  services.forM letGo
  collect cb

/-- Puts the journal in the order of its entries as text. -/
def sortJournal : Act Unit :=
  modify fun w => { w with
    journal := (w.journal.toList.mergeSort fun a b =>
      decide (a.json.compact ≤ b.json.compact)).toArray }

/-- Performs a command on a provider. -/
def ProviderCommand.perform (cb : Callbacks) : ProviderCommand → Try Json
  | .get name key handle => do
    match ← resolveIn cb name key with
    | .error e => throw (.resolve e)
    | .ok s => showAndKeep s handle
  | .tryGet name key handle => do
    match ← resolveIn cb name key with
    | .error _ => return .string "none"
    | .ok s => return .ofEntries [("some", ← showAndKeep s handle)]
  | .contains name key => do return .bool ((← look name).contains key.capability)
  | .types name => do
    match (← look name).types with
    | .error e => throw (.disposed e)
    | .ok listed =>
      return .array (listed.map fun t => .array [.string t.1, .string t.2.text])
  | .info name pretty => do
    let p ← look name
    return .ofEntries [("released", .bool p.isReleased), ("debug", dumpJson pretty p.dump)]
  | .concurrent name key count => do
    let provider ← named (·.providerNames) "providers" name
    let (services, errors) ← resolveAtOnce cb provider key.capability count
    letAllGo cb services
    sortJournal
    let texts := (errors.map (·.message)).mergeSort fun a b => decide (a ≤ b)
    return .ofEntries [("resolved", .int services.length),
      ("distinct", .int (distinct services).length), ("errors", .array (texts.map .string))]
  | .fakeClock name target => do
    let s ← resolveContent cb name (.fakeClock 0)
    if let .fakeClock id := s.content then
      nameClock target (← clockEntry (.fake id) true ((World.clockAt id).get (← getThe World)).origin)
    return nothing
  | .clock name target origin => do
    let s ← resolveContent cb name (.clock .system)
    if let .clock source := s.content then
      nameClock target ⟨source, false, originOf (← getThe World) origin, s⟩
    return nothing
  | .log name target origin => do
    let s ← resolveContent cb name (.eventLog 0)
    let memory ← memoryBehind cb name
    if let some id := s.log? then
      nameLog target ⟨id, memory, originOf (← getThe World) origin⟩
    return nothing
  | .lifetime name target => do
    let s ← resolveContent cb name (.lifetime 0)
    if let .lifetime id := s.content then nameLifetime target id
    return nothing
where
  look (name : String) : Try (Provider Service Factory) := do
    let provider ← named (·.providerNames) "providers" name
    return (World.providerAt provider).get (← getThe World)

/-- Performs a command on a handle. -/
def HandleCommand.perform : HandleCommand → Try Json
  | .show name => do
    let s ← named (·.handleNames) "handle" name
    return s.shown (← get)
  | .same left right => do
    match (← get).handleNames.find? left, (← get).handleNames.find? right with
    | some a, some b => return .bool (a.same b)
    | _, _ => throw (.absent "handle" "")
  | .drop name => do
    let _ ← named (·.handleNames) "handle" name
    modify fun w => { w with handleNames := w.handleNames.erase name }
    return nothing

end HostBench.Scenario
