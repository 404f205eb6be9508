/-
  The services that a host has of its own are views of one state. Its clock is offered twice, and the log
  that it makes for itself is offered twice and reads that clock, whatever was chosen for the builder
  before. What any of them is found to be, it stays, and so it does not matter when it was resolved and
  whether the services have been released since (`Premises.Held.eq`).

  * Both clocks tell the time of the clock that was chosen for the builder, and a sleep that was begun
    through the one is over when the other has moved to its end (`clockViews`).
  * Both logs show the same records, and each of these has the time that the clock showed when it was
    appended (`logViews`).
  * The lifetime is that of the host (`lifetimeViews`).

  All of it is said of every state to which a host can come once it is built (`views_of_one_state`).
-/
import HostBench.Proofs.Building.Premises
import HostBench.Proofs.Clock.Sleeping
import HostBench.Proofs.Neighbours.Street
import HostBench.Proofs.Service.Offers
import HostBench.Proofs.Service.Overtaken

namespace HostBench

variable {E V F H ρ W : Type}

/-! ## What a service gives access to -/

namespace Capability

/-- The clock that moves by hand. -/
def fakeClock : Capability := (BuiltIn.fakeClock 0).capability

/-- The event log that the host makes for itself. -/
def memoryLog : Capability := (BuiltIn.memoryLog 0).capability

/-- Any clock. -/
def anyClock : Capability := (BuiltIn.clock .system).capability

/-- Any event log. -/
def anyLog : Capability := (BuiltIn.eventLog 0).capability

/-- The lifetime of the host. -/
def hostLifetime : Capability := (BuiltIn.lifetime 0).capability

end Capability

namespace BuiltIn

/-- The clock that a service sleeps on. -/
def clock? : BuiltIn → Option Nat
  | .fakeClock c | .clock (.fake c) => some c
  | .clock .system | .memoryLog _ | .eventLog _ | .lifetime _ | .environment _ => none

/-- The log that a service appends to. -/
def log? : BuiltIn → Option Nat
  | .memoryLog l | .eventLog l => some l
  | .fakeClock _ | .clock _ | .lifetime _ | .environment _ => none

/-- The time that a service tells. -/
def now? (x : BuiltIn) (s : Memory E V F H ρ W) : Option Instant :=
  x.clock?.bind fun c => (s.cells .clock c).now?

/-- The records that a service shows. -/
def records? (x : BuiltIn) (s : Memory E V F H ρ W) : Option (List EventRecord) :=
  x.log?.map fun l => (s.cells .log l).records

/-- The capacity that a service tells. Only the log of a host tells one. -/
def capacity? (x : BuiltIn) (s : Memory E V F H ρ W) : Option (Option Nat) :=
  match x with
  | .memoryLog l => some (s.cells .log l).capacity
  | _ => none

/-- The lifetime that a service shows: its phase, its hooks and those who wait. -/
def lifetime? (x : BuiltIn) (s : Memory E V F H ρ W) : Option (Lifetime H W) :=
  match x with
  | .lifetime l => some (s.cells .lifetime l)
  | _ => none

end BuiltIn

/-- What is done through a service. -/
inductive ViewOp (H W : Type) where
  | advance (delta : Duration)
  | sleep (length : Duration)
  | pollSleep (id : SleepId) (w : W)
  | dropSleep (id : SleepId)
  | append (stream kind : String) (payload : Payload)
  | register (hook : Hook H)
  | wait (goal : Goal)
  | pollWait (id : WaitId) (w : W)
  | dropWait (id : WaitId)

namespace BuiltIn

/-- What it comes to, with the service that it is done through; not all of it can be done through each
of them. Any clock sleeps, but only the one that moves by hand is moved. -/
def op? (x : BuiltIn) : ViewOp H W → Option (HostOp H W)
  | .advance delta =>
    match x with
    | .fakeClock c => some (.advance c delta)
    | _ => none
  | .sleep length => x.clock?.map (.sleep · length)
  | .pollSleep id w => x.clock?.map (.pollSleep · id w)
  | .dropSleep id => x.clock?.map (.dropSleep · id)
  | .append stream kind payload => x.log?.map (.append · stream kind payload)
  | .register hook => ifLifetime (.register hook)
  | .wait goal => ifLifetime (.wait goal)
  | .pollWait id w => ifLifetime (.pollWait id w)
  | .dropWait id => ifLifetime (.dropWait id)
where
  ifLifetime (op : HostOp H W) : Option (HostOp H W) :=
    match x with
    | .lifetime _ => some op
    | _ => none

/-- On whose behalf it is done: a lifetime is where the service says, whoever has it. -/
def deed (d : Deed) : BuiltIn → Deed
  | .lifetime l => { d with home := l }
  | .fakeClock _ | .memoryLog _ | .clock _ | .eventLog _ | .environment _ => d

end BuiltIn

/-- Does something through a service of the host with a deed. -/
def Habits.through [BEq W] (habits : Habits E V F H ρ W) (d : Deed) (x : BuiltIn) (op : ViewOp H W) :
    StateM (Memory E V F H ρ W) (HostAnswer V H) :=
  match x.op? op with
  | none => return .absent
  | some call => habits.perform (x.deed d) call

/-- What is done through a service is done by the host's own operations. -/
theorem Habits.Honest.goes_through [BEq W] {habits : Habits E V F H ρ W} {q : Premises}
    (honest : ∀ d, habits.Honest q d) (d : Deed) (x : BuiltIn) (op : ViewOp H W)
    (s : Memory E V F H ρ W) : q.Goes s (habits.through d x op s).2 := by
  unfold through
  cases x.op? op with
  | none => exact .refl
  | some call => exact (honest _).goes_perform call s

/-! ## What a host has of its own -/

/-- The services of a host with a clock that moves by hand and a log that it makes for itself. -/
def BuiltIn.all (clock log lifetime : Nat) (settings : Settings) : List BuiltIn :=
  [.fakeClock clock, .memoryLog log, .clock (.fake clock), .eventLog log, .lifetime lifetime,
    .environment settings]

namespace Builder

open BuilderCall

variable {own clock log lifetime : Nat} {calls : List (BuilderCall E V F H)} {mint : BuiltIn → V}
  {env : E} {p : Blueprint V F H W}

theorem builtIns_eq {b : Builder V F H} (by_hand : b.clock = .fake clock)
    (no_other : b.eventLog = none) : b.builtIns mint log lifetime =
      (BuiltIn.all clock log lifetime b.settings).map fun x => (x.capability, mint x) := by
  unfold builtIns
  rw [by_hand, no_other]
  rfl

/-- Whatever was called before, a host with such a clock and no other log offers just these services,
and its log reads the clock and has the capacity that was set last. -/
theorem offers_of_buildAfter (built : buildAfter own calls mint log lifetime env = .ok p)
    (by_hand : lastClock own calls = .fake clock) (no_other : lastEventLog calls = none) :
    (∀ x ∈ BuiltIn.all clock log lifetime (lastSettings calls),
      p.registry.find? x.capability = some (.fixed (mint x))) ∧
      p.eventLog = some (.empty (.fake clock) (lastSettings calls).eventLogCapacity) := by
  obtain ⟨-, -, free⟩ := free_of_buildAfter built
  rw [blueprint_of_buildAfter built]
  have left := follow_new own calls env
  have services : (follow calls (.new own) env).1.1.builtIns mint log lifetime = _ :=
    builtIns_eq (by rw [left, by_hand]) (by rw [left, no_other])
  have keys := map_builtIns (follow calls (.new own) env).1.1 mint log lifetime
  rw [left] at services keys
  rw [left]
  constructor
  · intro x listed
    have offered : (x.capability, mint x) ∈ (BuiltIn.all clock log lifetime (lastSettings calls)).map
        fun x => (x.capability, mint x) := List.mem_map_of_mem listed
    rw [← services] at offered
    have absent : (registered calls env).find? x.capability = none := by
      have taken := free x.capability (keys ▸ List.mem_map_of_mem offered)
      rwa [Registry.contains, Option.isSome_eq_false_iff, Option.isNone_iff_eq_none] at taken
    rw [Registry.find?, Capability.lookup_append, ← Registry.find?, absent, Option.none_or]
    refine (Capability.lookup_eq_some_iff ?_).mpr (List.mem_map_of_mem offered)
    rw [List.map_map]
    exact keys ▸ nodup_installed _ _
  · dsimp only
    rw [no_other, by_hand]
    rfl

end Builder

/-- What is registered as a fixed service is found. -/
theorem Provider.lookup_of_fixed {r : Registry V F} {key : Capability} {v : V}
    (registered : r.find? key = some (.fixed v)) : (ofRegistry r).lookup key = .found v := by
  have none_made : key.lookup ([] : List (Capability × V)) = none := rfl
  simp only [lookup, ofRegistry, none_made, registered]

/-- The lifetime that a host gives is its own. -/
theorem Host.eq_of_lifetimeOf {h : Host} {i : Nat} (running : h.lifetimeOf = .ok i) :
    i = h.lifetime := by
  unfold lifetimeOf at running
  cases checked : h.ensureRunning "lifetime" with
  | error e =>
    rw [checked] at running
    cases running
  | ok _ =>
    rw [checked] at running
    exact (Except.ok.inj running).symm

namespace Premises

variable {q : Premises} {s t u : Memory E V F H ρ W}

/-- What is found is found until the services are released. -/
theorem Goes.found (goes : q.Goes s t) {key : Capability} {v : V}
    (offered : (s.cells .provider q.provider).lookup key = .found v) :
    t.cells .provider q.provider = .released ∨
      (t.cells .provider q.provider).lookup key = .found v := by
  refine goes.provider.imp_right fun uses => ?_
  have live : (s.cells .provider q.provider).isReleased = false := by
    rw [Bool.eq_false_iff]
    intro gone
    rw [Provider.eq_released gone] at offered
    cases offered
  exact (uses.stillOffers live).found key v offered

theorem Goes.reachable (goes : q.Goes s t) (reachable : (s.cells .clock q.clock).Reachable) :
    (t.cells .clock q.clock).Reachable := by
  obtain ⟨ops, went⟩ := goes.clock
  rw [went]
  exact reachable.inSequence ops

/-- A clock does not go back. -/
theorem Goes.elapsed_le (goes : q.Goes s t) (reachable : (s.cells .clock q.clock).Reachable) :
    (s.cells .clock q.clock).elapsed ≤ (t.cells .clock q.clock).elapsed := by
  obtain ⟨ops, went⟩ := goes.clock
  rw [went, Duration.le_def, FakeClock.toNanos_inSequence reachable]
  exact Nat.le_min.mpr ⟨Nat.le_add_right _ _, reachable⟩

/-- A sleep keeps its deadline. -/
theorem Goes.sleep (goes : q.Goes s t) (reachable : (s.cells .clock q.clock).Reachable) {id : SleepId}
    {x : Sleep W} (begun : (s.cells .clock q.clock).sleeps[id]? = some x)
    (sane : x.Sane (s.cells .clock q.clock).elapsed) :
    ∃ y, (t.cells .clock q.clock).sleeps[id]? = some y ∧ y.deadline = x.deadline ∧
      y.Sane (t.cells .clock q.clock).elapsed := by
  obtain ⟨ops, went⟩ := goes.clock
  rw [went]
  exact FakeClock.exists_inSequence reachable begun sane ops

/-- A service that was resolved in the course of things, and that someone may still have. -/
def Held (q : Premises) (habits : Habits E V F H ρ W) (d : Deed) (view : V → Option BuiltIn)
    (s t : Memory E V F H ρ W) (key : Capability) (x : BuiltIn) : Prop :=
  ∃ u v, q.Goes s u ∧ (habits.resolve d key u).1 = .ok v ∧ q.Goes (habits.resolve d key u).2 t ∧
    view v = some x

/-- Whenever it was resolved, it is what was offered from the beginning. -/
theorem Held.eq {habits : Habits E V F H ρ W} {d : Deed} {view : V → Option BuiltIn}
    {mint : BuiltIn → V} {key : Capability} {x y : BuiltIn}
    (held : q.Held habits d view s t key x) (home : d.home = q.provider)
    (views : ∀ x, view (mint x) = some x)
    (offered : (s.cells .provider q.provider).lookup key = .found (mint y)) : x = y := by
  obtain ⟨u, v, before, resolved, -, viewed⟩ := held
  have place : ∀ p, u.cells .provider q.provider = p →
      (Memory.place .provider d.home : Place (Memory E V F H ρ W) _).get u = p := fun p same => by
    rw [home]
    exact same
  rcases before.found offered with released | found
  · rw [Habits.resolve, Provider.resolve_of_refused (e := .disposed ⟨"resolve"⟩)
      (by rw [place _ released]; rfl)] at resolved
    cases resolved
  · rw [Habits.resolve, Provider.resolve_of_found (v := mint y) (by rw [place _ rfl]; exact found)]
      at resolved
    cases resolved
    rw [views] at viewed
    exact (Option.some.inj viewed).symm

end Premises

/-! ## Operations at the places of a host -/

namespace Habits

variable [BEq W] (habits : Habits E V F H ρ W) {d : Deed} {s : Memory E V F H ρ W} {i : Nat}

theorem perform_sleep (owned : d.owns .clock i = true) (length : Duration) :
    habits.perform d (.sleep i length) s = (.number (s.cells .clock i).sleeps.length,
      s.put .clock i ((s.cells .clock i).sleep length).1) := by
  rw [perform, within, owned]
  rfl

theorem perform_pollSleep (owned : d.owns .clock i = true) (id : SleepId) (w : W) :
    habits.perform d (.pollSleep i id w) s = (.ready ((s.cells .clock i).poll id w).2,
      s.put .clock i ((s.cells .clock i).poll id w).1) := by
  rw [perform, within, owned]
  rfl

theorem perform_advance (owned : d.owns .clock i = true) (delta : Duration) :
    (habits.perform d (.advance i delta) s).2 = (FakeClock.advanceAt (Memory.place .clock i)
      (fun woken => habits.report d (.clockAdvanced delta woken)) (habits.wake d) delta s).2 := by
  rw [perform, within, owned]
  rfl

theorem perform_append (owned : d.owns .log i = true) (stream kind : String) (payload : Payload) :
    habits.perform d (.append i stream kind payload) s =
      habits.append d i stream kind payload s := by
  rw [perform, within, owned]
  rfl

end Habits

/-! ## Views of one state -/

/-- The host with a deed and the clock that its builder was given. All else is at home. -/
def Deed.premises (d : Deed) (clock : Nat) : Premises := ⟨clock, d.home, d.home, d.home⟩

/-- Another host is built elsewhere. -/
theorem Deed.step_found (d : Deed) (clock : Nat) {s : Memory E V F H ρ W} (p : Blueprint V F H W)
    (new : s.next ≠ d.home) : (d.premises clock).Step s (s.found p) := by
  refine .elsewhere fun part i ours => ?_
  cases part with
  | clock => exact s.cells_found_clock p i
  | log | lifetime | provider =>
    rw [beq_iff_eq.mp ours]
    exact s.cells_found_of_ne p _ new.symm
  | timer | host | object => cases ours

section Views

variable [BEq W] (habits : Habits E V F H ρ W) (d : Deed) (q : Premises)

/-- What is to be said in a state of a sleep that was begun through one clock, when the other one may be
moved by hand. -/
structure Slept (f c : BuiltIn) (deadline : Duration) (id : SleepId) (s : Memory E V F H ρ W) :
    Prop where
  /-- The sleep is over just if the clock has come to its end. -/
  ready : ∀ w, (habits.through d c (.pollSleep id w) s).1 =
    .ready (decide (deadline ≤ (s.cells .clock q.clock).elapsed))
  /-- It is over when the other clock is moved so far. -/
  reached : ∀ delta, deadline ≤ (s.cells .clock q.clock).reached delta → ∀ w,
    (habits.through d c (.pollSleep id w) (habits.through d f (.advance delta) s).2).1 = .ready true
  /-- Whoever has asked for it in vain is then woken, unless the sleep was given up. -/
  woken : ∀ w, (habits.through d c (.pollSleep id w) s).1 = .ready false →
    (∀ x, (s.cells .clock q.clock).sleeps[id]? = some x → x.cancelled = false) →
    ∀ delta, deadline ≤ (s.cells .clock q.clock).reached delta → ∃ i, f.clock? = some i ∧
      w ∈ (((habits.through d c (.pollSleep id w) s).2.cells .clock i).advance delta).2

/-- The clock that moves by hand and any clock are the same clock. -/
structure ClockViews (f c : BuiltIn) (s : Memory E V F H ρ W) : Prop where
  /-- Both tell the time of the clock of the builder, and can always tell it. -/
  now : ∃ now, f.now? s = some now ∧ c.now? s = some now ∧ (s.cells .clock q.clock).now? = some now
  /-- What can be done with both is the same with both. -/
  alike : ∀ op, (∀ delta, op ≠ .advance delta) → habits.through d f op = habits.through d c op
  /-- A sleep that is begun through the one is over when the other has moved to its end. -/
  slept : ∀ length, ∃ id t, habits.through d c (.sleep length) s = (.number id, t) ∧
    ∀ u, q.Goes t u →
      Slept habits d q f c ((s.cells .clock q.clock).elapsed + length) id u

/-- The log that the host makes for itself and any log are the same log in a state `t`, after the host
was built in a state `s`. -/
structure LogViews (settings : Settings) (m l : BuiltIn) (s t : Memory E V F H ρ W) : Prop where
  records : ∃ records, m.records? t = some records ∧ l.records? t = some records
  capacity : m.capacity? t = some settings.eventLogCapacity
  alike : ∀ op, habits.through d m op = habits.through d l op
  /-- What is appended has the time that the clock shows, or nothing is. -/
  appends : ∀ stream kind payload,
    (∃ r u, habits.through d l (.append stream kind payload) t = (.appended (.ok r), u) ∧
      r.recordedAt = (t.cells .clock q.clock).now? ∧ ∃ before after,
        l.records? t = some before ∧ l.records? u = some after ∧ before ++ [r] <+: after) ∨
    ∃ e, habits.through d l (.append stream kind payload) t = (.appended (.error e), t)
  /-- Every record that is there was appended at some time since, and has the time that the clock showed
  then. -/
  recorded : ∀ records, l.records? t = some records → ∀ r ∈ records, ∃ u,
    q.Goes s u ∧ q.Goes u t ∧
      r.recordedAt = (u.cells .clock q.clock).now?

/-- A lifetime is that of the host. -/
structure LifetimeViews (x : BuiltIn) (s : Memory E V F H ρ W) (i : Nat) : Prop where
  shows : x.lifetime? s = some (s.cells .lifetime i)
  alike : ∀ op, habits.through d x op = habits.through d (.lifetime i) op
  /-- A hook that is accepted comes to the hooks of the host. -/
  registers : ∀ hook,
    (∃ l t, (s.cells .lifetime i).register hook = .ok l ∧
      habits.through d x (.register hook) s = (.registered (.ok ()), t) ∧
      q.Goes (s.put .lifetime i l) t) ∨
    ∃ e, (s.cells .lifetime i).register hook = .error e ∧
      habits.through d x (.register hook) s = (.registered (.error e), s)

/-- The services that a host has of its own are views of one state, in a state `t` after the host was
built in a state `s`. -/
structure OneState (view : V → Option BuiltIn) (settings : Settings) (s t : Memory E V F H ρ W) :
    Prop where
  /-- Until the services are released, each of them can be resolved. -/
  offered : (t.cells .provider q.provider).isReleased = false →
    ∀ key ∈ Builder.installed (.fake q.clock : ClockChoice V) (none : Option V),
      ∃ x v, habits.resolve d key t = (.ok v, t) ∧ view v = some x ∧ x.capability = key
  /-- Things may go on with any operation on anyone's behalf, through any service, and with other hosts
  that are built. -/
  onward : (∀ d' op, q.Goes s (habits.perform d' op t).2) ∧
    (∀ d' x op, q.Goes s (habits.through d' x op t).2) ∧
    ∀ p, t.next ≠ q.provider → q.Goes s (t.found p)
  clocks : ∀ f c, q.Held habits d view s t .fakeClock f →
    q.Held habits d view s t .anyClock c → ClockViews habits d q f c t
  logs : ∀ m l, q.Held habits d view s t .memoryLog m →
    q.Held habits d view s t .anyLog l → LogViews habits d q settings m l s t
  lifetimes : ∀ x, q.Held habits d view s t .hostLifetime x →
    ∀ h : Host, h.lifetime = q.lifetime → ∀ i, h.lifetimeOf = .ok i → LifetimeViews habits d q x t i

end Views

section Holds

variable [BEq W] {habits : Habits E V F H ρ W} {d : Deed} {q : Premises} {s t : Memory E V F H ρ W}

/-- A sleep of the clock that is not over before its end, whatever has been done with it so far. -/
theorem slept_of_sane (honest : ∀ d', habits.Honest q d')
    (owned : d.owns .clock q.clock = true) (reachable : (s.cells .clock q.clock).Reachable) {id : SleepId}
    {x : Sleep W} (begun : (s.cells .clock q.clock).sleeps[id]? = some x)
    (sane : x.Sane (s.cells .clock q.clock).elapsed) :
    Slept habits d q (.fakeClock q.clock) (.clock (.fake q.clock)) x.deadline id s := by
  have polled : ∀ w u, habits.through d (.clock (.fake q.clock)) (.pollSleep id w) u =
      (.ready ((u.cells .clock q.clock).poll id w).2,
        u.put .clock q.clock ((u.cells .clock q.clock).poll id w).1) :=
    fun w u => habits.perform_pollSleep owned id w
  have ready : ∀ {u : Memory E V F H ρ W} {y}, (u.cells .clock q.clock).sleeps[id]? = some y →
      y.Sane (u.cells .clock q.clock).elapsed → ∀ w,
        (habits.through d (.clock (.fake q.clock)) (.pollSleep id w) u).1 =
          .ready (decide (y.deadline ≤ (u.cells .clock q.clock).elapsed)) := by
    intro u y there sane w
    rw [polled]
    exact congrArg HostAnswer.ready
      (Bool.eq_iff_iff.mpr ((FakeClock.ready_iff there sane w).trans decide_eq_true_iff.symm))
  refine ⟨ready begun sane, fun delta due w => ?_, fun w unready kept delta due => ?_⟩
  · -- Where the clock is after the move, and after all that the move brings about.
    have moved : (habits.through d (.fakeClock q.clock) (.advance delta) s).2 = _ :=
      habits.perform_advance owned delta
    have goes : q.Goes s
        (habits.through d (.fakeClock q.clock) (.advance delta) s).2 :=
      Habits.Honest.goes_through honest d _ _ s
    obtain ⟨y, there, same, sane⟩ := goes.sleep reachable begun sane
    rw [ready there sane, same]
    refine congrArg HostAnswer.ready (decide_eq_true ?_)
    cases still : delta.isZero with
    | true =>
      rw [Duration.isZero_iff.mp still, FakeClock.reached_zero reachable] at due
      exact Nat.le_trans due (goes.elapsed_le reachable)
    | false =>
      have later := (honest d).goes_moved q.clock still s
      rw [← moved] at later
      have onward := later.elapsed_le (by
        rw [Memory.cells_put_self]
        exact FakeClock.reachable_advance reachable delta)
      rw [Memory.cells_put_self, FakeClock.elapsed_advance still] at onward
      exact Nat.le_trans due onward
  · refine ⟨q.clock, rfl, ?_⟩
    rw [polled] at unready ⊢
    rw [Memory.cells_put_self]
    exact FakeClock.woken_of_due reachable begun sane (kept x begun) (HostAnswer.ready.inj unready) due

theorem clockViews (honest : ∀ d', habits.Honest q d')
    (owned : d.owns .clock q.clock = true) (reachable : (s.cells .clock q.clock).Reachable) :
    ClockViews habits d q (.fakeClock q.clock) (.clock (.fake q.clock)) s where
  now := by
    obtain ⟨now, shown, -⟩ := reachable.exists_now
    exact ⟨now, shown, shown, shown⟩
  alike op other := by
    cases op with
    | advance delta => exact absurd rfl (other delta)
    | sleep | pollSleep | dropSleep | append | register | wait | pollWait | dropWait => rfl
  slept length := by
    refine ⟨_, _, habits.perform_sleep owned length, fun u goes => ?_⟩
    have put : (s.put .clock q.clock ((s.cells .clock q.clock).sleep length).1).cells .clock q.clock =
        ((s.cells .clock q.clock).sleep length).1 := Memory.cells_put_self s _
    have begun : ((s.cells .clock q.clock).sleep length).1.sleeps[
        (s.cells .clock q.clock).sleeps.length]? = some ⟨_, none, !length.isZero, false, false⟩ :=
      List.getElem?_concat_length
    have sane := Sleep.Sane.begun (W := W) (s.cells .clock q.clock).elapsed length
    have start : ((s.cells .clock q.clock).sleep length).1.Reachable := reachable
    rw [← put] at begun start
    obtain ⟨x, there, same, sane⟩ := goes.sleep start begun (by rwa [put])
    have deadline : x.deadline = (s.cells .clock q.clock).elapsed + length := same
    rw [← deadline]
    exact slept_of_sane honest owned (goes.reachable start) there sane

theorem logViews {settings : Settings} (honest : ∀ d', habits.Honest q d')
    (owned : d.owns .log q.log = true)
    (begun : s.cells .log q.log = .empty (.fake q.clock) settings.eventLogCapacity)
    (goes : q.Goes s t) :
    LogViews habits d q settings (.memoryLog q.log) (.eventLog q.log) s t := by
  obtain ⟨source, capacity, -⟩ := goes.log
  have reads : (t.cells .log q.log).source = .fake q.clock := source.trans (by rw [begun]; rfl)
  have told : (t.cells .clock q.clock).now? = t.showing (t.cells .log q.log).source := by
    rw [reads]
    rfl
  refine ⟨⟨_, rfl, rfl⟩, congrArg some (capacity.trans (by rw [begun]; rfl)), fun op => ?_,
    fun stream kind payload => ?_, fun records shown r there => ?_⟩
  · cases op <;> rfl
  · have performed : habits.through d (.eventLog q.log) (.append stream kind payload) t =
        habits.append d q.log stream kind payload t := habits.perform_append owned stream kind payload
    rw [performed]
    cases tried : (t.cells .log q.log).appendPayload stream kind payload
        (t.showing (t.cells .log q.log).source) with
    | error e => exact .inr ⟨e, Habits.append_of_refused tried⟩
    | ok result =>
      obtain ⟨l, r⟩ := result
      obtain ⟨⟨v, made⟩, left⟩ := EventLog.appendPayload_of_ok tried
      refine .inl ⟨r, _, Habits.append_of_taken tried, by rw [told, made]; rfl, _, _, rfl, rfl, ?_⟩
      have onward := ((honest d).report (.eventAppended r.sequence r.stream r.kind)
        (t.put .log q.log l)).log.2.2
      have grown : l.records = (t.cells .log q.log).records ++ [r] := congrArg EventLog.records left
      rw [Memory.cells_put_self, grown] at onward
      exact onward
  · cases shown
    rcases goes.recorded there with old | ⟨u, before, after, time, -⟩
    · rw [begun] at old
      cases old
    · refine ⟨u, before, after, ?_⟩
      rw [time, begun]
      rfl

theorem lifetimeViews (honest : ∀ d', habits.Honest q d') :
    LifetimeViews habits d q (.lifetime q.lifetime) s q.lifetime := by
  refine ⟨rfl, fun _ => rfl, fun hook => ?_⟩
  have performed : habits.through d (.lifetime q.lifetime) (.register hook) s =
    habits.register { d with home := q.lifetime } hook s := rfl
  rw [performed]
  cases tried : (s.cells .lifetime q.lifetime).register hook with
  | error e => exact .inr ⟨e, rfl, Habits.register_of_refused tried⟩
  | ok l =>
    exact .inl ⟨l, _, rfl, Habits.register_of_accepted tried, (honest _).report _ _⟩

/-- **Views of one state.** Whatever was called of its builder, if the clock that was chosen last moves by
hand and no other log was given, then in every state to which a host can come once it is built, the
services that were resolved from it are views of one state: it does not matter when they were resolved,
and whether the services have been released since. -/
theorem views_of_one_state {clock : Nat} {own : Nat} {calls : List (BuilderCall E V F H)}
    {mint : BuiltIn → V} {view : V → Option BuiltIn} (views : ∀ x, view (mint x) = some x) {env : E}
    {p : Blueprint V F H W} (home : d.home = s.next) (given : clock ∈ d.goods.clocks)
    (built : Builder.buildAfter own calls mint d.home d.home env = .ok p)
    (by_hand : BuilderCall.lastClock own calls = .fake clock)
    (no_other : BuilderCall.lastEventLog calls = none)
    (reachable : (s.cells .clock clock).Reachable)
    (honest : ∀ d', habits.Honest (d.premises clock) d')
    (goes : (d.premises clock).Goes (s.found p) t) :
    OneState habits d (d.premises clock) view (BuilderCall.lastSettings calls) (s.found p) t := by
  obtain ⟨offers, log⟩ := Builder.offers_of_buildAfter built by_hand no_other
  have services : (s.found p).cells .provider d.home = .ofRegistry p.registry := by
    rw [home]
    exact s.cells_found_next p .provider
  have offered : ∀ x ∈ BuiltIn.all clock d.home d.home (BuilderCall.lastSettings calls),
      ((s.found p).cells .provider d.home).lookup x.capability = .found (mint x) := by
    intro x listed
    rw [services]
    exact Provider.lookup_of_fixed (offers x listed)
  have held : ∀ {key x}, (d.premises clock).Held habits d view (s.found p) t key x →
      ∀ y ∈ BuiltIn.all clock d.home d.home (BuilderCall.lastSettings calls),
        y.capability = key → x = y := by
    rintro _ x held y listed rfl
    exact held.eq rfl views (offered y listed)
  have empty : (s.found p).cells .log d.home =
      .empty (.fake clock) (BuilderCall.lastSettings calls).eventLogCapacity := by
    rw [home, s.cells_found_next p .log, Blueprint.content, log]
    rfl
  have start : ((s.found p).cells .clock clock).Reachable := by
    rwa [s.cells_found_clock p clock]
  constructor
  case offered =>
    intro live key installed
    obtain ⟨x, listed, rfl⟩ : ∃ x ∈ BuiltIn.all clock d.home d.home (BuilderCall.lastSettings calls),
        x.capability = key := List.mem_map.mp installed
    rcases goes.found (offered x listed) with released | found
    · rw [released] at live
      cases live
    · exact ⟨x, mint x, Provider.resolve_of_found found, views x, rfl⟩
  case onward =>
    exact ⟨fun d' op => goes.trans ((honest d').goes_perform op t),
      fun d' x op => goes.trans (Habits.Honest.goes_through honest d' x op t),
      fun p' new => goes.tail (d.step_found clock p' new)⟩
  case clocks =>
    intro f c by_hand any
    obtain rfl := held by_hand (.fakeClock clock) (by simp [BuiltIn.all]) rfl
    obtain rfl := held any (.clock (.fake clock)) (by simp [BuiltIn.all]) rfl
    exact clockViews honest (decide_eq_true given) (goes.reachable start)
  case logs =>
    intro m l own any
    obtain rfl := held own (.memoryLog d.home) (by simp [BuiltIn.all]) rfl
    obtain rfl := held any (.eventLog d.home) (by simp [BuiltIn.all]) rfl
    exact logViews honest (by simp [Deed.owns, Deed.premises]) empty goes
  case lifetimes =>
    intro x any h same i running
    obtain rfl := held any (.lifetime d.home) (by simp [BuiltIn.all]) rfl
    rw [Host.eq_of_lifetimeOf running, same]
    exact lifetimeViews honest

end Holds

/-! ## A lodge -/

namespace Lodge

/-- Nobody does anything on behalf of the host. -/
def habits : Habits Unit BuiltIn Unit Unit Unit Nat where
  make _ _ := return .ok (.clock .system)
  start _ _ := ()
  poll _ _ := return .finished (.ok ())
  abandon _ _ := return ()
  waker d := d.home
  wake _ _ := return ()
  discard _ := return ()
  report _ _ := return ()

theorem honest (q : Premises) (d : Deed) : habits.Honest q d where
  make _ _ := .refl
  poll _ _ := .refl
  abandon _ _ := .refl
  wake _ _ := .refl
  discard _ := .refl
  report _ _ := .refl

/-- A memory without hosts. -/
def memory : Memory Unit BuiltIn Unit Unit Unit Nat where
  cells
    | .clock, _ => .withOrigin default
    | .log, _ => .empty .system none
    | .provider, _ => .released
    | .lifetime, _ => .new
    | .timer, _ => .start
    | .host, _ => none
    | .object, _ => ()
  next := 0

def settings : Settings := { (default : Settings) with eventLogCapacity := some 2 }

/-- A clock of another kind is chosen first, and the one that moves by hand after the settings. -/
def calls : List (BuilderCall Unit BuiltIn Unit Unit) :=
  [.clock .system (.clock .system), .settings settings, .fakeClock 1]

def deed : Deed := ⟨0, ⟨[1], [], []⟩⟩

def plan : Blueprint BuiltIn Unit Unit Nat where
  settings := settings
  registry := ⟨(BuiltIn.all 1 0 0 settings).map fun x => (x.capability, .fixed x)⟩
  lifetime := ⟨.running, [], []⟩
  eventLog := some (.empty (.fake 1) (some 2))

/-- The host is built, a record is appended, and the host is dropped. -/
def left : Memory Unit BuiltIn Unit Unit Unit Nat :=
  (habits.perform deed .drop
    (habits.perform deed (.append 0 "guests" "arrived" (.json .null)) (memory.found plan)).2).2

theorem views_of_one_lodge :
    Builder.buildAfter 7 calls id deed.home deed.home () = .ok plan ∧
      (left.cells .provider deed.home).isReleased = true ∧
      OneState habits deed (deed.premises 1) some settings (memory.found plan) left := by
  have built : Builder.buildAfter 7 calls id deed.home deed.home () = .ok plan := rfl
  have goes : (deed.premises 1).Goes (memory.found plan) left :=
    ((honest _ deed).goes_perform _ _).trans ((honest _ deed).goes_perform _ _)
  exact ⟨built, rfl, views_of_one_state (fun _ => rfl) rfl List.mem_cons_self built rfl rfl
    (FakeClock.reachable_withOrigin default) (honest _) goes⟩

end Lodge

end HostBench
