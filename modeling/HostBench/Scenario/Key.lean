/-
  The keys under which a scenario speaks of capabilities, and the kind of value that each holds.
-/
import HostBench.Builder

namespace HostBench.Scenario

/-- The kind of value that a key holds. -/
inductive ValueKind where
  /-- A value that is shown as it is written. -/
  | plain
  /-- A string; one that a factory makes also says what the factory resolved. -/
  | string
  /-- A value that tells when it is dropped. -/
  | probe
  | fakeClock
  | clock
  | memoryLog
  | eventLog
  | lifetime
  | environment
  deriving DecidableEq

/-- A key: how scenarios write it, the capability it stands for, and the kind of its values. -/
structure Key where
  text : String
  capability : Capability
  kind : ValueKind

namespace Key

/-- A key whose type is called as the key is written. -/
def simple (text : String) (kind : ValueKind) : Key := ⟨text, ⟨text⟩, kind⟩

/-- The keys that scenarios may use. -/
def all : List Key := [
  simple "u8" .plain, simple "u16" .plain, simple "u32" .plain, simple "u64" .plain,
  simple "i32" .plain, simple "bool" .plain,
  ⟨"unit", ⟨"()"⟩, .plain⟩,
  ⟨"bytes", ⟨"alloc::vec::Vec<u8>"⟩, .plain⟩,
  ⟨"String", ⟨"alloc::string::String"⟩, .string⟩,
  simple "str" .string,
  ⟨"Alpha", ⟨"exec_oracle::caps::Alpha"⟩, .string⟩,
  ⟨"Beta", ⟨"exec_oracle::caps::Beta"⟩, .string⟩,
  ⟨"Gamma", ⟨"exec_oracle::caps::Gamma"⟩, .string⟩,
  ⟨"Delta", ⟨"exec_oracle::caps::Delta"⟩, .string⟩,
  ⟨"Wrap", ⟨"exec_oracle::caps::Wrap<u8>"⟩, .string⟩,
  ⟨"WrapWrap", ⟨"exec_oracle::caps::Wrap<exec_oracle::caps::Wrap<u8>>"⟩, .string⟩,
  ⟨"dyn Greeter", ⟨"dyn exec_oracle::caps::Greeter"⟩, .string⟩,
  ⟨"Probe", ⟨"exec_oracle::caps::Probe"⟩, .probe⟩,
  ⟨"FakeClock", (BuiltIn.fakeClock 0).capability, .fakeClock⟩,
  ⟨"dyn Clock", (BuiltIn.clock .system).capability, .clock⟩,
  ⟨"InMemoryEventLog", (BuiltIn.memoryLog 0).capability, .memoryLog⟩,
  ⟨"dyn EventLog", (BuiltIn.eventLog 0).capability, .eventLog⟩,
  ⟨"HostLifetime", (BuiltIn.lifetime 0).capability, .lifetime⟩,
  ⟨"HostEnvironment", (BuiltIn.environment default).capability, .environment⟩]

/-- The key that is written so. -/
def ofText? (text : String) : Option Key := all.find? (·.text == text)

end Key

end HostBench.Scenario
