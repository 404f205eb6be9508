/-
  Registries of services: what is offered under which capability, and how it comes into being. The
  first registration of a capability counts (`register_eq_ok_iff`, `find?_register`).
-/
import HostBench.Text.Dump

namespace HostBench

/-- A capability, known by the name of its type. -/
structure Capability where
  typeName : String
  deriving DecidableEq

/-- How a service comes into being: it is there from the beginning, it is made once, or it is made
anew each time. -/
inductive ServiceLifetime where
  | fixed
  | singleton
  | transient
  deriving DecidableEq

/-- The name of a service lifetime. -/
def ServiceLifetime.text : ServiceLifetime → String
  | .fixed => "Instance"
  | .singleton => "Singleton"
  | .transient => "Transient"

/-- What is registered: a service, or a factory that makes one. -/
inductive Entry (V F : Type) where
  | fixed (service : V)
  | singleton (factory : F)
  | transient (factory : F)

/-- How the service of an entry comes into being. -/
def Entry.lifetime {V F : Type} : Entry V F → ServiceLifetime
  | .fixed _ => .fixed
  | .singleton _ => .singleton
  | .transient _ => .transient

/-- Why a registration is refused. -/
inductive RegistrationError where
  /-- The capability is registered already. -/
  | duplicate (typeName : String)
  deriving DecidableEq

namespace RegistrationError

/-- The error in words. -/
def message : RegistrationError → String
  | .duplicate typeName => "service `" ++ typeName ++ "` already registered"

/-- The error as a dump. -/
def dump : RegistrationError → Dump
  | .duplicate typeName => .record "Duplicate" [("type_name", .string typeName)]

end RegistrationError

/-- The value of a capability in a list of pairs. -/
def Capability.lookup {α : Type} (key : Capability) (entries : List (Capability × α)) : Option α :=
  (entries.find? (·.1 == key)).map (·.2)

/-- The registered services, in the order of registration. -/
structure Registry (V F : Type) where
  entries : List (Capability × Entry V F)

namespace Registry

variable {V F : Type}

/-- A registry without services. -/
def empty : Registry V F := ⟨[]⟩

instance : Inhabited (Registry V F) := ⟨empty⟩

/-- How many services are registered. -/
def size (r : Registry V F) : Nat := r.entries.length

/-- The entry of a capability. -/
def find? (r : Registry V F) (key : Capability) : Option (Entry V F) := key.lookup r.entries

/-- The capability is registered. -/
def contains (r : Registry V F) (key : Capability) : Bool := (r.find? key).isSome

/-- Registers a service, unless the capability is taken. -/
def register (r : Registry V F) (key : Capability) (e : Entry V F) :
    Except RegistrationError (Registry V F) :=
  if r.contains key then .error (.duplicate key.typeName)
  else .ok ⟨r.entries ++ [(key, e)]⟩

/-- The registered capabilities and how their services come into being, by name. -/
def types (r : Registry V F) : List (String × ServiceLifetime) :=
  (r.entries.map fun e => (e.1.typeName, e.2.lifetime)).mergeSort fun a b => decide (a.1 ≤ b.1)

/-- The registry as a dump: the names in order. -/
def dump (r : Registry V F) : Dump :=
  .record "ServiceRegistry" [("services", .list (r.types.map fun t => .string t.1))]

@[simp] theorem find?_empty (key : Capability) : (empty : Registry V F).find? key = none := rfl

theorem register_eq_ok_iff {r r' : Registry V F} {key : Capability} {e : Entry V F} :
    r.register key e = .ok r' ↔ r.contains key = false ∧ r' = ⟨r.entries ++ [(key, e)]⟩ := by
  unfold register
  constructor
  · intro h
    split at h
    · cases h
    · rename_i free
      cases h
      exact ⟨by simpa using free, rfl⟩
  · rintro ⟨free, rfl⟩
    rw [free]
    rfl

/-- A capability finds what is registered under it for the first time, and all others find what they
found before. -/
theorem find?_register {r r' : Registry V F} {key : Capability} {e : Entry V F}
    (accepted : r.register key e = .ok r') (k : Capability) :
    r'.find? k = if k = key then some e else r.find? k := by
  obtain ⟨free, rfl⟩ := register_eq_ok_iff.mp accepted
  have none_before : r.find? key = none := by simpa [contains] using free
  unfold find? Capability.lookup at *
  rw [List.find?_append]
  by_cases same : k = key
  · rw [same]
    have absent : r.entries.find? (·.1 == key) = none := by simpa using none_before
    rw [absent]
    simp
  · have other : List.find? (·.1 == k) [(key, e)] = none := by
      simpa using fun h : key = k => same h.symm
    rw [other]
    simp [same]

theorem size_register {r r' : Registry V F} {key : Capability} {e : Entry V F}
    (accepted : r.register key e = .ok r') : r'.size = r.size + 1 := by
  obtain ⟨_, rfl⟩ := register_eq_ok_iff.mp accepted
  simp [size]

end Registry

end HostBench
