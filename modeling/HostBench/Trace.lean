/-
  The events that a host and its parts report while they work.
-/
import HostBench.Duration

namespace HostBench.Trace

/-- How much an event matters. -/
inductive Level where
  | trace
  | debug
  | info
  | warn
  deriving DecidableEq

/-- The name of a level. -/
def Level.text : Level → String
  | .trace => "TRACE"
  | .debug => "DEBUG"
  | .info => "INFO"
  | .warn => "WARN"

/-- An event of the host or of one of its parts. -/
inductive Event where
  | clockAdvanced (delta : Duration) (woken : Nat)
  | eventAppended (sequence : Nat) (stream kind : String)
  | adapterInvoked (adapter : String) (callIndex : Nat)
  | serviceRegistered (service lifetime : String)
  | serviceCreated (service lifetime : String)
  | hookRegistered (hook : String)
  | configurationRejected (error : String)
  | configurationErrorIgnored (error : String)
  | hostBuilt (host : String) (services hooks : Nat)
  | shutdownInitiated (host : String) (hooks : Nat) (timeout : Duration)
  | hookFailed (host hook error : String)
  | hookTimedOut (host hook : String) (timeout : Duration)
  | alreadyDisposed (host : String)
  | disposed (host : String) (released : Nat) (clean : Bool)
  | droppedUndisposed (host : String)
  deriving DecidableEq

/-- A field of an event. -/
inductive Field where
  | nat (n : Nat)
  | bool (b : Bool)
  | text (s : String)

namespace Event

/-- How much the event matters. -/
def level : Event → Level
  | .clockAdvanced .. => .trace
  | .configurationRejected .. | .hookFailed .. | .hookTimedOut .. | .droppedUndisposed .. => .warn
  | .hostBuilt .. | .shutdownInitiated .. | .disposed .. => .info
  | _ => .debug

/-- What the event says. -/
def message : Event → String
  | .clockAdvanced .. => "fake clock advanced"
  | .eventAppended .. => "event appended"
  | .adapterInvoked .. => "mock adapter invoked"
  | .serviceRegistered .. => "service registered"
  | .serviceCreated .. => "service created by factory"
  | .hookRegistered .. => "shutdown hook registered"
  | .configurationRejected .. => "test host configuration rejected"
  | .configurationErrorIgnored .. => "additional configuration error ignored"
  | .hostBuilt .. => "test host built"
  | .shutdownInitiated .. => "graceful shutdown initiated"
  | .hookFailed .. => "shutdown hook failed"
  | .hookTimedOut .. => "shutdown hook timed out"
  | .alreadyDisposed .. => "test host already disposed"
  | .disposed .. => "test host disposed"
  | .droppedUndisposed .. =>
    "test host dropped without dispose; releasing services without running shutdown hooks"

/-- Whole milliseconds in a word of 64 bits. -/
def millis (d : Duration) : Field := .nat (d.toMillis % 18446744073709551616)

/-- The named fields of the event. -/
def fields : Event → List (String × Field)
  | .clockAdvanced delta woken => [("delta_ms", millis delta), ("woken", .nat woken)]
  | .eventAppended sequence stream kind =>
    [("sequence", .nat sequence), ("stream", .text stream), ("kind", .text kind)]
  | .adapterInvoked adapter callIndex =>
    [("adapter", .text adapter), ("call_index", .nat callIndex)]
  | .serviceRegistered service lifetime =>
    [("service", .text service), ("lifetime", .text lifetime)]
  | .serviceCreated service lifetime => [("service", .text service), ("lifetime", .text lifetime)]
  | .hookRegistered hook => [("hook", .text hook)]
  | .configurationRejected error => [("error", .text error)]
  | .configurationErrorIgnored error => [("error", .text error)]
  | .hostBuilt host services hooks =>
    [("host", .text host), ("services", .nat services), ("hooks", .nat hooks)]
  | .shutdownInitiated host hooks timeout =>
    [("host", .text host), ("hooks", .nat hooks), ("timeout_ms", millis timeout)]
  | .hookFailed host hook error =>
    [("host", .text host), ("hook", .text hook), ("error", .text error)]
  | .hookTimedOut host hook timeout =>
    [("host", .text host), ("hook", .text hook), ("timeout_ms", millis timeout)]
  | .alreadyDisposed host => [("host", .text host)]
  | .disposed host released clean =>
    [("host", .text host), ("released", .nat released), ("clean", .bool clean)]
  | .droppedUndisposed host => [("host", .text host)]

end Event

end HostBench.Trace
