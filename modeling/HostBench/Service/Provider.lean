/-
  Providers: the services of a running host. A provider that has been released has nothing to offer
  any more (`lookup_released`). Resolving may call a factory, and the factory may resolve services
  itself or do anything else with the state that the provider is part of; a singleton that is kept is
  found from then on (`lookup_keep`).

  Only one thread is at work. So nobody waits in a slot while a singleton is made, nor looks for it a
  second time after that, and a capability is looked up just once. A singleton whose factory leads back
  to it would wait for its own slot for ever; here its factory is called again. Services are values, and
  what happens when they are let go is left to whoever holds the provider (`HostStage.discard`).
-/
import HostBench.Lifetime
import HostBench.Place
import HostBench.Service.Registry

namespace HostBench

/-- Why a service is not found. -/
inductive ResolveError where
  /-- Nothing is registered under the capability. -/
  | notRegistered (typeName : String)
  /-- The factory failed. -/
  | factory (typeName reason : String)
  /-- The host has released its services. -/
  | disposed (e : DisposedError)
  deriving DecidableEq

namespace ResolveError

/-- The error in words. -/
def message : ResolveError → String
  | .notRegistered typeName => "service `" ++ typeName ++ "` is not registered"
  | .factory typeName reason => "factory for `" ++ typeName ++ "` failed: " ++ reason
  | .disposed e => e.message

/-- The error as a dump. -/
def dump : ResolveError → Dump
  | .notRegistered typeName => .record "NotRegistered" [("type_name", .string typeName)]
  | .factory typeName reason =>
    .record "Factory" [("type_name", .string typeName), ("reason", .string reason)]
  | .disposed e => .wrapped "Disposed" e.dump

/-- The error of a factory as the error of the capability that the factory serves. -/
def through (key : Capability) : ResolveError → ResolveError
  | .disposed e => .disposed e
  | e => .factory key.typeName e.message

end ResolveError

/-- The services of a host that has not released them: what is registered, and the singletons that
have been made. -/
structure Services (V F : Type) where
  registry : Registry V F
  singletons : List (Capability × V)

/-- A provider: its services, until they are released. -/
structure Provider (V F : Type) where
  services : Option (Services V F)

/-- What a provider has for a capability. -/
inductive Lookup (V F : Type) where
  | found (service : V)
  | refused (e : ResolveError)
  | toMake (lifetime : ServiceLifetime) (factory : F)

namespace Provider

variable {V F : Type}

/-- The provider of a registry. -/
def ofRegistry (r : Registry V F) : Provider V F := ⟨some ⟨r, []⟩⟩

/-- A provider that has nothing to offer any more. -/
def released : Provider V F := ⟨none⟩

instance : Inhabited (Provider V F) := ⟨released⟩

/-- The services have been released. -/
def isReleased (p : Provider V F) : Bool := p.services.isNone

/-- What the provider has for a capability: a singleton that has been made, a fixed service, or a
factory. -/
def lookup (p : Provider V F) (key : Capability) : Lookup V F :=
  match p.services with
  | none => .refused (.disposed ⟨"resolve"⟩)
  | some s =>
    match key.lookup s.singletons with
    | some v => .found v
    | none =>
      match s.registry.find? key with
      | none => .refused (.notRegistered key.typeName)
      | some (.fixed v) => .found v
      | some (.singleton f) => .toMake .singleton f
      | some (.transient f) => .toMake .transient f

/-- Keeps a singleton that has been made, unless there is one already or the services have been
released in the meantime; the answer is the singleton that is kept. -/
def keep (p : Provider V F) (key : Capability) (v : V) : Except ResolveError (Provider V F × V) :=
  match p.services with
  | none => .error (.disposed ⟨"resolve"⟩)
  | some s =>
    match key.lookup s.singletons with
    | some old => .ok (p, old)
    | none => .ok (⟨some { s with singletons := s.singletons ++ [(key, v)] }⟩, v)

/-- The capability is registered. -/
def contains (p : Provider V F) (key : Capability) : Bool :=
  p.services.any fun s => s.registry.contains key

/-- The registered capabilities, by name. -/
def types (p : Provider V F) : Except DisposedError (List (String × ServiceLifetime)) :=
  match p.services with
  | none => .error ⟨"registered_types"⟩
  | some s => .ok s.registry.types

/-- How many services are registered. -/
def size (p : Provider V F) : Nat := (p.services.map fun s => s.registry.size).getD 0

/-- Takes back all services at once; the answer is how many were registered. -/
def release (p : Provider V F) : Provider V F × Nat := (released, p.size)

/-- The provider as a dump. -/
def dump (p : Provider V F) : Dump :=
  match p.services with
  | none => .text "ServiceProvider(released)"
  | some s => .record "ServiceProvider" [("registrations", .nat s.registry.size),
      ("cached_singletons", .nat s.singletons.length)]

/-- Resolves a capability in the provider at a place. A factory runs while the provider is open to
everyone, and what it makes of a singleton is kept only if the services are still there. -/
def resolve {σ : Type} (place : Place σ (Provider V F))
    (make : F → StateM σ (Except ResolveError V))
    (created : Capability → ServiceLifetime → StateM σ Unit) (key : Capability) :
    StateM σ (Except ResolveError V) := do
  match (← place.read).lookup key with
  | .found v => return .ok v
  | .refused e => return .error e
  | .toMake lifetime f =>
    match ← make f with
    | .error e => return .error (e.through key)
    | .ok v =>
      created key lifetime
      if lifetime = .transient then return .ok v
      else
        match (← place.read).keep key v with
        | .error e => return .error e
        | .ok (p, v) =>
          place.write p
          return .ok v

@[simp] theorem lookup_released (key : Capability) :
    (released : Provider V F).lookup key = .refused (.disposed ⟨"resolve"⟩) := rfl

@[simp] theorem contains_released (key : Capability) :
    (released : Provider V F).contains key = false := rfl

@[simp] theorem types_released :
    (released : Provider V F).types = .error ⟨"registered_types"⟩ := rfl

@[simp] theorem size_released : (released : Provider V F).size = 0 := rfl

@[simp] theorem size_ofRegistry (r : Registry V F) : (ofRegistry r).size = r.size := rfl

/-- What is kept for a capability is what is found from then on. -/
theorem lookup_keep {p p' : Provider V F} {key : Capability} {v kept : V}
    (h : p.keep key v = .ok (p', kept)) : p'.lookup key = .found kept := by
  obtain ⟨services⟩ := p
  cases services with
  | none => cases h
  | some s =>
    cases made : key.lookup s.singletons with
    | some old =>
      simp only [keep, made] at h
      cases h
      simp [lookup, made]
    | none =>
      simp only [keep, made] at h
      cases h
      have absent : s.singletons.find? (·.1 == key) = none := by
        simpa [Capability.lookup] using made
      simp [lookup, Capability.lookup, List.find?_append, absent]

end Provider

end HostBench
