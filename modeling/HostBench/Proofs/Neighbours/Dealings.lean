/-
  What is done with a host and with what belongs to it: services are resolved, clocks are moved and
  slept on, records are appended, hooks are registered, phases are waited for, and the host is disposed,
  also in vain, or dropped (`HostOp`). Each of these is done by the programs of the library itself, at the
  places of the host's deed (`Habits.perform`).

  What factories, hooks and those who are woken do is taken as given, and all that is assumed of it is
  that it is confined to the deed of the host on whose behalf it is done (`Habits.Loyal`). Then so is
  every operation (`Habits.Loyal.perform`).
-/
import HostBench.Builder
import HostBench.Proofs.Disposal.Course
import HostBench.Proofs.Neighbours.Memory

namespace HostBench

variable {E V F H ρ W : Type}

/-! ## Operations and their answers -/

/-- What is done with a host and with what belongs to it. Clocks and logs are called by their
addresses. -/
inductive HostOp (H W : Type) where
  | resolve (key : Capability)
  | contains (key : Capability)
  | types
  | advance (clock : Nat) (delta : Duration)
  | sleep (clock : Nat) (d : Duration)
  | pollSleep (clock : Nat) (id : SleepId) (w : W)
  | dropSleep (clock : Nat) (id : SleepId)
  | readClock (clock : Nat)
  | append (log : Nat) (stream kind : String) (payload : Payload)
  | readLog (log : Nat)
  | register (hook : Hook H)
  | wait (goal : Goal)
  | pollWait (id : WaitId) (w : W)
  | dropWait (id : WaitId)
  | readLifetime
  /-- Begins to dispose the host, or goes on with it. -/
  | dispose
  /-- Gives up the disposal that is in progress. -/
  | interrupt
  | readHost
  | drop

/-- What an operation answers. -/
inductive HostAnswer (V H : Type) where
  /-- What is asked for does not belong to the host, or there is no host. -/
  | absent
  | done
  | built (result : Except ConfigurationError Unit)
  | resolved (result : Except ResolveError V)
  | contained (known : Bool)
  | types (result : Except DisposedError (List (String × ServiceLifetime)))
  | number (id : Nat)
  | ready (isReady : Bool)
  | clock (elapsed : Duration) (now : Option Instant) (pending : Nat)
  | appended (result : Except LogError EventRecord)
  | records (l : List EventRecord)
  | registered (result : Except DisposedError Unit)
  | lifetime (phase : Phase) (hooks : List (Hook H))
  | disposal (progress : Step Unit ShutdownReport)
  | host (state : HostState) (services lifetime : Except DisposedError Nat)
      (report : Option ShutdownReport)

/-! ## What lies around hosts -/

/-- What factories, hooks and those who are woken do on behalf of the host with a deed, what becomes of
services that are let go, and who is told of events. -/
structure Habits (E V F H ρ W : Type) where
  make : Deed → F → StateM (Memory E V F H ρ W) (Except ResolveError V)
  start : Deed → Hook H → ρ
  poll : Deed → ρ → StateM (Memory E V F H ρ W) (Progress ρ)
  abandon : Deed → ρ → StateM (Memory E V F H ρ W) Unit
  waker : Deed → W
  wake : Deed → W → StateM (Memory E V F H ρ W) Unit
  discard : Deed → StateM (Memory E V F H ρ W) Unit
  report : Deed → Trace.Event → StateM (Memory E V F H ρ W) Unit

namespace Habits

/-- Whatever is done on behalf of a host is confined to its deed. So a factory or a hook that several
hosts share keeps nothing of what it does for one of them. Those who are woken or told of events, and
services that are let go, may do nothing at all, or go about the things of the host. -/
structure Loyal (habits : Habits E V F H ρ W) : Prop where
  make : ∀ d f, Confined d (habits.make d f)
  poll : ∀ d r, Confined d (habits.poll d r)
  abandon : ∀ d r, Confined d (habits.abandon d r)
  wake : ∀ d w, Confined d (habits.wake d w)
  discard : ∀ d, Confined d (habits.discard d)
  report : ∀ d e, Confined d (habits.report d e)

variable (habits : Habits E V F H ρ W) (d : Deed)

/-- The memory as a host with a deed sees it. -/
def stage : HostStage (Memory E V F H ρ W) H ρ V F W where
  timer := Memory.place .timer d.home
  waker := habits.waker d
  report := habits.report d
  start := habits.start d
  poll := habits.poll d
  abandon := habits.abandon d
  provider i := Memory.place .provider i
  lifetime i := Memory.place .lifetime i
  wake := habits.wake d
  discard := habits.discard d

/-! ## Operations -/

/-- Does something at an address that belongs to the deed. -/
def within (part : Part) (i : Nat) (act : StateM (Memory E V F H ρ W) (HostAnswer V H)) :
    StateM (Memory E V F H ρ W) (HostAnswer V H) :=
  if d.owns part i then act else return .absent

/-- The point in time that a source shows. -/
def timeOf : TimeSource → StateM (Memory E V F H ρ W) (Option Instant)
  | .fake clock => do return (← (Memory.place .clock clock).read).now?
  | .system => return none

/-- Resolves a capability in the provider of the host. -/
def resolve (key : Capability) : StateM (Memory E V F H ρ W) (Except ResolveError V) :=
  Provider.resolve (Memory.place .provider d.home) (habits.make d)
    (fun key lifetime => habits.report d (.serviceCreated key.typeName lifetime.text)) key

/-- Appends a record to a log, with the time of its clock. -/
def append (log : Nat) (stream kind : String) (payload : Payload) :
    StateM (Memory E V F H ρ W) (HostAnswer V H) := do
  let l ← (Memory.place .log log).read
  match l.appendPayload stream kind payload (← timeOf l.source) with
  | .error e => return .appended (.error e)
  | .ok (l, r) =>
    (Memory.place .log log).write l
    habits.report d (.eventAppended r.sequence r.stream r.kind)
    return .appended (.ok r)

/-- Registers a hook. -/
def register (hook : Hook H) : StateM (Memory E V F H ρ W) (HostAnswer V H) := do
  match (← (Memory.place .lifetime d.home).read).register hook with
  | .error e => return .registered (.error e)
  | .ok l =>
    (Memory.place .lifetime d.home).write l
    habits.report d (.hookRegistered hook.label)
    return .registered (.ok ())

/-- Does something with the host, if there is one. -/
def withTenant (act : Tenant H ρ → StateM (Memory E V F H ρ W) (HostAnswer V H)) :
    StateM (Memory E V F H ρ W) (HostAnswer V H) := do
  match ← (Memory.place .host d.home).read with
  | none => return .absent
  | some x => act x

/-- Keeps what a poll of a disposal has made of the host. -/
def settle (h : Host) :
    Step (Disposal H ρ) (Host × ShutdownReport) → StateM (Memory E V F H ρ W) (HostAnswer V H)
  | .waiting x => do
    (Memory.place .host d.home).write (some ⟨h, some x⟩)
    return .disposal (.waiting ())
  | .done (h, report) => do
    (Memory.place .host d.home).write (some ⟨h, none⟩)
    return .disposal (.done report)
  | .panicked message => do
    (Memory.place .host d.home).write (some ⟨h, none⟩)
    return .disposal (.panicked message)

/-- Gives up the disposal of a host, if one is in progress. -/
def giveUp (x : Tenant H ρ) : StateM (Memory E V F H ρ W) Unit :=
  match x.disposal with
  | none => return ()
  | some disposal => Host.cancelDisposal (habits.stage d) disposal

/-- Begins to dispose a host, or goes on with it. -/
def dispose [BEq W] (x : Tenant H ρ) : StateM (Memory E V F H ρ W) (HostAnswer V H) := do
  match x.disposal with
  | none => settle d x.host (← x.host.dispose (habits.stage d))
  | some disposal => settle d x.host (← Host.pollDisposal (habits.stage d) disposal)

/-- Performs an operation on behalf of the host with a deed. -/
def perform [BEq W] : HostOp H W → StateM (Memory E V F H ρ W) (HostAnswer V H)
  | .resolve key => do return .resolved (← habits.resolve d key)
  | .contains key => do
    return .contained ((← (Memory.place .provider d.home).read).contains key)
  | .types => do return .types (← (Memory.place .provider d.home).read).types
  | .advance clock delta => within d .clock clock do
    FakeClock.advanceAt (Memory.place .clock clock)
      (fun woken => habits.report d (.clockAdvanced delta woken)) (habits.wake d) delta
    return .done
  | .sleep clock duration => within d .clock clock do
    let (c, id) := (← (Memory.place .clock clock).read).sleep duration
    (Memory.place .clock clock).write c
    return .number id
  | .pollSleep clock id w => within d .clock clock do
    let (c, ready) := (← (Memory.place .clock clock).read).poll id w
    (Memory.place .clock clock).write c
    return .ready ready
  | .dropSleep clock id => within d .clock clock do
    (Memory.place .clock clock).write ((← (Memory.place .clock clock).read).cancel id)
    return .done
  | .readClock clock => within d .clock clock do
    let c ← (Memory.place .clock clock).read
    return .clock c.elapsed c.now? c.pendingSleepers
  | .append log stream kind payload => within d .log log (habits.append d log stream kind payload)
  | .readLog log => within d .log log do
    return .records (← (Memory.place .log log).read).records
  | .register hook => habits.register d hook
  | .wait goal => do
    let (l, id) := (← (Memory.place .lifetime d.home).read).wait goal
    (Memory.place .lifetime d.home).write l
    return .number id
  | .pollWait id w => do
    let (l, ready) := (← (Memory.place .lifetime d.home).read).poll id w
    (Memory.place .lifetime d.home).write l
    return .ready ready
  | .dropWait id => do
    (Memory.place .lifetime d.home).write ((← (Memory.place .lifetime d.home).read).cancel id)
    return .done
  | .readLifetime => do
    let l ← (Memory.place .lifetime d.home).read
    return .lifetime l.phase l.hooks
  | .dispose => withTenant d (habits.dispose d)
  | .interrupt => withTenant d fun x => do
    habits.giveUp d x
    (Memory.place .host d.home).write (some ⟨x.host, none⟩)
    return .done
  | .readHost => withTenant d fun x =>
    return .host x.host.state x.host.services x.host.lifetimeOf x.host.report
  | .drop => withTenant d fun x => do
    habits.giveUp d x
    x.host.drop (habits.stage d)
    (Memory.place .host d.home).write none
    return .done

end Habits

/-! ## Operations are confined -/

theorem EventLog.source_of_appendPayload {l l' : EventLog} {stream kind : String} {payload : Payload}
    {now : Option Instant} {r : EventRecord}
    (taken : l.appendPayload stream kind payload now = .ok (l', r)) : l'.source = l.source := by
  obtain ⟨-, rfl⟩ := appendPayload_of_ok taken
  rfl

namespace Habits

variable {habits : Habits E V F H ρ W} {d : Deed} {i : Nat}

theorem confined_within {part : Part}
    {act : StateM (Memory E V F H ρ W) (HostAnswer V H)}
    (inside : d.owns part i = true → Confined d act) :
    Confined d (within d part i act) := by
  unfold within
  cases owned : d.owns part i with
  | true => exact inside owned
  | false => exact .pure _

theorem confined_withTenant {act : Tenant H ρ → StateM (Memory E V F H ρ W) (HostAnswer V H)}
    (deals : ∀ x, x.At d.home → Confined d (act x)) :
    Confined d (withTenant d act) := by
  refine Confined.bind_of (R := fun tenant => ∀ x, tenant = some x → x.At d.home)
    (.read d.owns_host) (fun _ order => order.at_home) fun tenant at_home => ?_
  cases tenant with
  | none => exact .pure _
  | some x => exact deals x (at_home x rfl)

/-- To put a host at home that is at home there is confined to the deed. -/
theorem confined_write_host {tenant : Option (Tenant H ρ)}
    (at_home : ∀ x, tenant = some x → x.At d.home) :
    Confined d ((Memory.place .host d.home :
      Place (Memory E V F H ρ W) (Option (Tenant H ρ))).write tenant) :=
  .write d.owns_host tenant fun _ order => order.put_host at_home

theorem confined_settle {h : Host} (provider : h.provider = d.home) (lifetime : h.lifetime = d.home)
    {step : Step (Disposal H ρ) (Host × ShutdownReport)} (answers : h.Answers step) :
    Confined d (settle d h step :
      StateM (Memory E V F H ρ W) (HostAnswer V H)) := by
  cases step with
  | waiting x =>
    refine (confined_write_host fun y same => ?_).bind fun _ => .pure _
    cases same
    exact ⟨provider, lifetime, fun disposal same => by cases same; exact answers⟩
  | done result =>
    refine (confined_write_host fun y same => ?_).bind fun _ => .pure _
    cases same
    exact ⟨answers.1.trans provider, answers.2.trans lifetime, fun _ none => by cases none⟩
  | panicked message =>
    refine (confined_write_host fun y same => ?_).bind fun _ => .pure _
    cases same
    exact ⟨provider, lifetime, fun _ none => by cases none⟩

/-- A log that reads a clock of the deed tells a time that depends on nothing else. -/
theorem confined_timeOf {source : TimeSource}
    (own : ∀ c, source = .fake c → d.owns .clock c = true) :
    Confined d (timeOf source : StateM (Memory E V F H ρ W) (Option Instant)) := by
  cases source with
  | fake c => exact (Confined.read (own c rfl)).bind fun _ => .pure _
  | system => exact .pure _

namespace Loyal

variable (loyal : habits.Loyal)
include loyal

/-- All that a host does is done at the places of its deed. -/
theorem composed (d : Deed) :
    (habits.stage d).Composed (confinedKind E V F H ρ W d) d.home d.home where
  timer := d.open_place (decide_eq_true rfl) (by decide) (by decide)
  report := loyal.report d
  poll := loyal.poll d
  abandon := loyal.abandon d
  lifetime := d.open_place (decide_eq_true rfl) (by decide) (by decide)
  provider := d.open_place (decide_eq_true rfl) (by decide) (by decide)
  wake := loyal.wake d
  discard := loyal.discard d

theorem composed_at {h : Host} (provider : h.provider = d.home) (lifetime : h.lifetime = d.home) :
    (habits.stage d).Composed (confinedKind E V F H ρ W d) h.lifetime h.provider := by
  rw [provider, lifetime]
  exact loyal.composed d

theorem append (owned : d.owns .log i = true) (stream kind : String) (payload : Payload) :
    Confined d (habits.append d i stream kind payload) := by
  refine Confined.bind_of
    (R := fun l : EventLog => ∀ c, l.source = .fake c → d.owns .clock c = true)
    (.read owned) (fun _ order => order.reads_own i owned) fun l own => ?_
  refine (confined_timeOf own).bind fun now => ?_
  cases taken : l.appendPayload stream kind payload now with
  | error e => exact .pure _
  | ok result =>
    have own' : ∀ c, result.1.source = .fake c → d.owns .clock c = true := by
      rw [EventLog.source_of_appendPayload taken]
      exact own
    exact (Confined.write owned result.1 fun _ order => order.put_log own').bind fun _ =>
      (loyal.report d _).bind fun _ => .pure _

theorem giveUp (x : Tenant H ρ) : Confined d (habits.giveUp d x) := by
  unfold Habits.giveUp
  cases x.disposal with
  | none => exact .pure _
  | some disposal => exact Host.has_cancelDisposal (loyal.composed d).toComposed disposal

theorem dispose [BEq W] {x : Tenant H ρ} (at_home : x.At d.home) :
    Confined d (habits.dispose d x) := by
  have composed := loyal.composed_at at_home.provider at_home.lifetime
  unfold Habits.dispose
  cases held : x.disposal with
  | none =>
    exact Confined.bind_of (R := x.host.Answers) (Host.has_dispose composed)
      (fun s _ => x.host.answers_dispose _ s)
      fun step answers => confined_settle at_home.provider at_home.lifetime answers
  | some disposal =>
    have same := at_home.own disposal held
    rw [← same] at composed
    exact Confined.bind_of (R := x.host.Answers) (Host.has_pollDisposal (Host.closing composed))
      (fun s _ => same ▸ Host.answers_pollDisposal _ disposal s)
      fun step answers => confined_settle at_home.provider at_home.lifetime answers

/-- Whatever is done with a host is confined to its deed. -/
theorem perform [BEq W] (op : HostOp H W) : Confined d (habits.perform d op) := by
  have provider := (loyal.composed d).provider
  have lifetime := (loyal.composed d).lifetime
  have clock : ∀ {i}, d.owns .clock i = true →
      (Memory.place .clock i : Place (Memory E V F H ρ W) (FakeClock W)).Open
        (confinedKind E V F H ρ W d) :=
    fun owned => d.open_place owned (by decide) (by decide)
  cases op with
  | resolve key =>
    exact Confined.bind (has_resolve provider (loyal.make d)
      (fun _ _ => loyal.report d _) key) fun _ => .pure _
  | contains key => exact Confined.bind provider.read fun _ => .pure _
  | types => exact Confined.bind provider.read fun _ => .pure _
  | advance i delta =>
    exact confined_within fun owned => Confined.bind (has_advanceAt (clock owned)
      (fun _ => loyal.report d _) (loyal.wake d) delta) fun _ => .pure _
  | sleep i duration =>
    exact confined_within fun owned => Confined.bind (clock owned).read fun _ =>
      Confined.bind ((clock owned).write _) fun _ => .pure _
  | pollSleep i id w =>
    exact confined_within fun owned => Confined.bind (clock owned).read fun _ =>
      Confined.bind ((clock owned).write _) fun _ => .pure _
  | dropSleep i id =>
    exact confined_within fun owned => Confined.bind (clock owned).read fun _ =>
      Confined.bind ((clock owned).write _) fun _ => .pure _
  | readClock i =>
    exact confined_within fun owned => Confined.bind (clock owned).read fun _ => .pure _
  | append i stream kind payload =>
    exact confined_within fun owned => loyal.append owned stream kind payload
  | readLog i =>
    exact confined_within fun owned => (Confined.read owned).bind fun _ => .pure _
  | register hook =>
    refine Confined.bind lifetime.read fun l => ?_
    cases l.register hook with
    | error e => exact .pure _
    | ok l =>
      exact Confined.bind (lifetime.write _) fun _ =>
        (loyal.report d _).bind fun _ => .pure _
  | wait goal =>
    exact Confined.bind lifetime.read fun _ =>
      Confined.bind (lifetime.write _) fun _ => .pure _
  | pollWait id w =>
    exact Confined.bind lifetime.read fun _ =>
      Confined.bind (lifetime.write _) fun _ => .pure _
  | dropWait id =>
    exact Confined.bind lifetime.read fun _ =>
      Confined.bind (lifetime.write _) fun _ => .pure _
  | readLifetime => exact Confined.bind lifetime.read fun _ => .pure _
  | dispose => exact confined_withTenant fun x at_home => loyal.dispose at_home
  | interrupt =>
    refine confined_withTenant fun x at_home => (loyal.giveUp x).bind fun _ =>
      (confined_write_host fun y same => ?_).bind fun _ => .pure _
    cases same
    exact ⟨at_home.provider, at_home.lifetime, fun _ none => by cases none⟩
  | readHost => exact confined_withTenant fun x _ => .pure _
  | drop =>
    refine confined_withTenant fun x at_home => (loyal.giveUp x).bind fun _ => ?_
    have composed := loyal.composed_at at_home.provider at_home.lifetime
    exact Confined.bind (Host.has_drop (Host.closing composed)) fun _ =>
      (confined_write_host fun y none => by cases none).bind fun _ => .pure _

end Loyal

end Habits

end HostBench
