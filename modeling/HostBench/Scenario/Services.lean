/-
  Services in a scenario: how they are made and shown, who holds them, and how they are resolved.
  A probe lives as long as something holds it; when nothing does any more it is dropped, and its
  commands run.
-/
import HostBench.Scenario.World

namespace HostBench.Scenario

/-! ## Showing -/

/-- What a service shows of itself. -/
def Service.shown (s : Service) (w : World) : Json :=
  match s.content with
  | .plain v => v
  | .probe label => .string label
  | .fakeClock clock =>
    let c := (World.clockAt clock).get w
    .ofEntries [("elapsed", durationJson c.elapsed), ("pending", .int c.pendingSleepers)]
  | .clock _ => .string "dyn Clock"
  | .memoryLog log =>
    let l := (World.logAt log).get w
    .ofEntries [("len", .int l.size), ("capacity", optionJson l.capacity)]
  | .eventLog log => .ofEntries [("len", .int ((World.logAt log).get w).size)]
  | .lifetime lifetime =>
    .ofEntries [("phase", .string ((World.lifetimeAt lifetime).get w).phase.text)]
  | .environment settings =>
    .ofEntries [("host_name", .string settings.hostName),
      ("timeout", durationJson settings.shutdownTimeout), ("settings", settingsJson settings)]

/-- What a service shows of itself, as text: a string as it is, all else as JSON. -/
def Service.shownText (s : Service) (w : World) : String :=
  match s.shown w with
  | .string t => t
  | v => v.compact

/-! ## Holding -/

/-- The services that an entry of a registry holds. -/
def heldByEntry : Entry Service Factory → List Service
  | .fixed s => [s]
  | _ => []

/-- The services that a registry holds. -/
def heldByRegistry (r : Registry Service Factory) : List Service :=
  r.entries.flatMap fun e => heldByEntry e.2

/-- The services that a provider holds. -/
def heldByProvider (p : Provider Service Factory) : List Service :=
  match p.services with
  | some s => heldByRegistry s.registry ++ s.singletons.map (·.2)
  | none => []

/-- The numbers of all allocations that something holds. -/
def World.held (w : World) : List Nat :=
  w.inHand ++
    (w.handleNames.objects ++ w.registryNames.objects.flatMap heldByRegistry ++
      w.builderNames.objects.flatMap (heldByRegistry ·.registry) ++
      w.providers.toList.flatMap heldByProvider).map (·.allocation)

/-- Holds a service in the course of a command. -/
def hold (s : Service) : Act Unit := modify fun w => { w with inHand := s.allocation :: w.inHand }

/-- Takes back one hold. -/
def letGo (s : Service) : Act Unit :=
  modify fun w => { w with inHand := w.inHand.erase s.allocation }

/-- Drops every probe that nothing holds. They are all gone before the commands of the first one
run. -/
def collect (cb : Callbacks) : Act Unit := do
  let w ← get
  if w.probes.isEmpty then return ()
  else
    let held := w.held
    let (kept, dropped) := w.probes.partition fun p => held.contains p.allocation
    set { w with probes := kept }
    dropped.forM fun p => do
      modify fun w => { w with dropped := w.dropped.push p.label }
      cb.run (.drop p.label) p.run

/-! ## Making -/

/-- A new service. -/
def newService (c : Content) : Act Service := do return ⟨← allocate, c⟩

/-- A new probe. -/
def newProbe (label : String) (run : List Command) : Act Service := do
  let s ← newService (.probe label)
  modify fun w => { w with probes := w.probes ++ [⟨s.allocation, label, run⟩] }
  return s

/-- What a text says of the services that its factory has resolved. -/
def withNeeds (s : String) (needs : List String) : String :=
  if needs.isEmpty then s else s ++ "(" ++ ",".intercalate needs ++ ")"

/-- The object of a name as a service of a kind. Clocks that move by hand and lifetimes are offered
as new services; of the others the service that is there is shared. -/
def serviceOf (kind : ValueKind) (name : String) : Try Service := do
  match kind with
  | .fakeClock => newService (.fakeClock (← movableClock name))
  | .clock => return (← named (·.clockNames) "clocks" name).service
  | .memoryLog => newService (.memoryLog (← memoryLog name))
  | .eventLog => newService (.eventLog (← named (·.logNames) "logs" name).log)
  | .lifetime => newService (.lifetime (← named (·.lifetimeNames) "lives" name))
  | _ =>
    let s ← named (·.handleNames) "handle" name
    match s.content with
    | .environment _ => return s
    | _ => throw (.absent "handle" name)

/-- Makes the service of an offer, given what the services it needs show. The object of a name is
looked up only now. -/
def Offer.make (needs : List String) : Offer Command → Try Service
  | .plain v => newService (.plain v)
  | .string s => newService (.plain (.string (withNeeds s needs)))
  | .probe label run => newProbe (withNeeds label needs) run
  | .object kind name => serviceOf kind name

/-- The entry of a registration. A fixed service is made at once, a factory gets a counter. -/
def entryOf (r : Registration Command) : Try (Entry Service Factory) := do
  match r.lifetime with
  | .fixed => return .fixed (← r.offer.make [])
  | lifetime =>
    let counter := (← getThe World).calls.size
    modify fun w => { w with calls := w.calls.push 0 }
    let f : Factory := ⟨r.key, counter, r.run, r.needs.map (·.capability), r.failure, r.offer⟩
    return if lifetime = .singleton then .singleton f else .transient f

/-- Registers a service and reports it; a service that is refused is dropped. -/
def register (cb : Callbacks) (registry : Registry Service Factory) (key : Capability)
    (e : Entry Service Factory) : Act (Except RegistrationError (Registry Service Factory)) := do
  match registry.register key e with
  | .error err =>
    collect cb
    return .error err
  | .ok registry =>
    report (.serviceRegistered key.typeName e.lifetime.text)
    return .ok registry

/-! ## Resolving -/

/-- What the services of capabilities show, resolved one after the other. -/
def showNeeds (cb : Callbacks) (provider : Nat) :
    List Capability → Act (Except ResolveError (List String))
  | [] => return .ok []
  | key :: rest => do
    match ← cb.resolve provider key with
    | .error e => return .error e
    | .ok s =>
      let text := s.shownText (← get)
      letGo s
      collect cb
      match ← showNeeds cb provider rest with
      | .error e => return .error e
      | .ok texts => return .ok (text :: texts)

/-- Calls a factory of a provider. -/
def callFactory (cb : Callbacks) (provider : Nat) (f : Factory) :
    Act (Except ResolveError Service) := do
  let source : Source := .factory f.key.text
  let count := (← get).calls.getD f.counter 0 + 1
  modify fun w => { w with calls := w.calls.setIfInBounds f.counter count }
  note (.factoryCalled source count)
  cb.run source f.run
  match ← showNeeds cb provider f.needs with
  | .error e => return .error e
  | .ok needs =>
    if count ≤ f.failure.times then return .error f.failure.error
    else
      match ← (f.offer.make needs).run with
      | .ok s => return .ok s
      | .error e => return .error (.factory f.key.capability.typeName e.message)

/-- Resolves a capability; whoever asks holds the service. -/
def resolve (cb : Callbacks) (provider : Nat) (key : Capability) :
    Act (Except ResolveError Service) := do
  let result ← Provider.resolve (World.providerAt provider) (callFactory cb provider)
    (fun key lifetime => report (.serviceCreated key.typeName lifetime.text)) key
  match result with
  | .ok s => hold s
  | .error _ => collect cb
  return result

end HostBench.Scenario
