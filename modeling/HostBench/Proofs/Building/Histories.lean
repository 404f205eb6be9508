/-
  What the building of a host comes to, after any calls of its builder. Errors have three layers. The
  calls come first: the earliest that failed decides, and nothing that is called later makes up for it.
  Then come the settings, which are those that were set last, with their fields in order. Last come the
  services of the host itself, which find their capabilities taken or free; which of them there are, and
  in what order they are tried, depends on the clock and the log that were chosen last.

  `perform_builder` says what one call leaves and `follow_builder` what all of them leave, each part of
  the builder for itself. `result_build` then reads the result off the builder, and `builds_exactly` off
  the calls. The hooks that a host is built with are accepted one after the other by a lifetime that
  still runs (`lifetimeOf_eq`).
-/
import HostBench.Builder
import HostBench.Proofs.Basics
import Mathlib.Data.List.Find

namespace HostBench

variable {E V F H W : Type}

/-! ## Offending settings -/

/-- The place of a setting in the order in which they are checked. -/
def Setting.rank : Setting → Nat
  | .hostName => 0
  | .shutdownTimeout => 1
  | .eventLogCapacity => 2

/-- A setting has a value that is not allowed: a name without a character that is not blank, a timeout
of no length, or a log without room. -/
def Settings.Offends (s : Settings) : Setting → Prop
  | .hostName => ∀ c ∈ s.hostName.toList, Text.isBlank c = true
  | .shutdownTimeout => s.shutdownTimeout = .zero
  | .eventLogCapacity => s.eventLogCapacity = some 0

namespace Settings

variable {s : Settings}

theorem offends_hostName_iff : s.Offends .hostName ↔ Text.allBlank s.hostName = true :=
  List.all_eq_true.symm

theorem offends_shutdownTimeout_iff : s.Offends .shutdownTimeout ↔ s.shutdownTimeout.isZero = true :=
  Duration.isZero_iff.symm

theorem offends_eventLogCapacity_iff :
    s.Offends .eventLogCapacity ↔ (s.eventLogCapacity == some 0) = true := beq_iff_eq.symm

theorem badSetting?_eq_some {f : Setting} (offends : s.Offends f)
    (first : ∀ g : Setting, g.rank < f.rank → ¬ s.Offends g) : s.badSetting? = some f := by
  unfold badSetting?
  cases f with
  | hostName => rw [if_pos (offends_hostName_iff.mp offends)]
  | shutdownTimeout =>
    have name := mt offends_hostName_iff.mpr (first .hostName (by decide))
    rw [if_neg name, if_pos (offends_shutdownTimeout_iff.mp offends)]
  | eventLogCapacity =>
    have name := mt offends_hostName_iff.mpr (first .hostName (by decide))
    have timeout := mt offends_shutdownTimeout_iff.mpr (first .shutdownTimeout (by decide))
    rw [if_neg name, if_neg timeout, if_pos (offends_eventLogCapacity_iff.mp offends)]

theorem badSetting?_eq_none_iff : s.badSetting? = none ↔ ∀ f, ¬ s.Offends f := by
  constructor
  · intro nothing
    -- the first of those that offend would have been found
    have name : ¬ s.Offends .hostName := by
      intro offends
      rw [badSetting?_eq_some offends fun g before => absurd before (Nat.not_lt_zero _)] at nothing
      cases nothing
    have timeout : ¬ s.Offends .shutdownTimeout := by
      intro offends
      rw [badSetting?_eq_some offends fun g before => by
        cases g with
        | hostName => exact name
        | _ => exact absurd before (by decide)] at nothing
      cases nothing
    intro f offends
    cases f with
    | hostName => exact name offends
    | shutdownTimeout => exact timeout offends
    | eventLogCapacity =>
      rw [badSetting?_eq_some offends fun g before => by
        cases g with
        | hostName => exact name
        | shutdownTimeout => exact timeout
        | eventLogCapacity => exact absurd before (by decide)] at nothing
      cases nothing
  · intro none_offends
    unfold badSetting?
    rw [if_neg (mt offends_hostName_iff.mpr (none_offends _)),
      if_neg (mt offends_shutdownTimeout_iff.mpr (none_offends _)),
      if_neg (mt offends_eventLogCapacity_iff.mpr (none_offends _))]

end Settings

/-! ## Calls -/

/-- A call of a builder. -/
inductive BuilderCall (E V F H : Type) where
  | settings (s : Settings)
  | toml (text : String)
  | clock (source : TimeSource) (service : V)
  | fakeClock (clock : Nat)
  | eventLog (service : V)
  /-- Someone goes about the registry, which may depend on what lies around and change it. -/
  | services (configure : Registry V F → StateM E (Registry V F × Except RegistrationError Unit))
  | hook (hook : Hook H)

namespace BuilderCall

/-- Calls a builder. -/
def perform (call : BuilderCall E V F H) (b : Builder V F H) :
    StateM E (Builder V F H × List Trace.Event) :=
  match call with
  | .settings s => return (b.withSettings s, [])
  | .toml text => return b.withToml text
  | .clock source service => return (b.withClock source service, [])
  | .fakeClock c => return (b.withFakeClock c, [])
  | .eventLog service => return (b.withEventLog service, [])
  | .services configure => b.configureServices configure
  | .hook h => return (b.addHook h, [])

/-- The settings that a call sets. A document that is refused sets none. -/
@[simp]
def settings? : BuilderCall E V F H → Option Settings
  | .settings s => some s
  | .toml text => (Settings.ofToml text).toOption
  | _ => none

/-- The clock that a call chooses. -/
@[simp]
def clock? : BuilderCall E V F H → Option (ClockChoice V)
  | .clock source service => some (.custom source service)
  | .fakeClock c => some (.fake c)
  | _ => none

/-- The event log that a call puts in place of the host's own. -/
@[simp]
def eventLog? : BuilderCall E V F H → Option V
  | .eventLog service => some service
  | _ => none

/-- The hook that a call adds. -/
@[simp]
def hook? : BuilderCall E V F H → Option (Hook H)
  | .hook h => some h
  | _ => none

/-- The registry that a call leaves, and the error that it ends with. -/
@[simp]
def outcome (call : BuilderCall E V F H) (r : Registry V F) :
    StateM E (Registry V F × Option ConfigurationError) :=
  match call with
  | .toml text =>
    match Settings.ofToml text with
    | .ok _ => return (r, none)
    | .error e => return (r, some (.settings e))
  | .services configure => do
    let (r, result) ← configure r
    match result with
    | .ok () => return (r, none)
    | .error e => return (r, some (.registration e))
  | _ => return (r, none)

/-- The registry that calls leave, one after the other, and the errors that they end with, in order. -/
def outcomes : List (BuilderCall E V F H) → Registry V F →
    StateM E (Registry V F × List ConfigurationError)
  | [], r => return (r, [])
  | call :: calls, r => do
    let (r, e) ← call.outcome r
    let (r, es) ← outcomes calls r
    return (r, e.toList ++ es)

/-- The errors of the calls of a new builder, in order. -/
def failures (calls : List (BuilderCall E V F H)) (env : E) : List ConfigurationError :=
  (outcomes calls .empty env).1.2

/-- What the calls of a new builder have registered. -/
def registered (calls : List (BuilderCall E V F H)) (env : E) : Registry V F :=
  (outcomes calls .empty env).1.1

/-- The settings that were set last. -/
def lastSettings (calls : List (BuilderCall E V F H)) : Settings :=
  (calls.filterMap settings?).getLast?.getD default

/-- The clock that was chosen last; before that there is one that moves by hand. -/
def lastClock (clock : Nat) (calls : List (BuilderCall E V F H)) : ClockChoice V :=
  (calls.filterMap clock?).getLast?.getD (.fake clock)

/-- The event log that was put last in place of the host's own, if any. -/
def lastEventLog (calls : List (BuilderCall E V F H)) : Option V :=
  (calls.filterMap eventLog?).getLast?

end BuilderCall

namespace Builder

/-- Follows calls, one after the other. -/
def follow : List (BuilderCall E V F H) → Builder V F H →
    StateM E (Builder V F H × List Trace.Event)
  | [], b => return (b, [])
  | call :: calls, b => do
    let (b, first) ← call.perform b
    let (b, rest) ← follow calls b
    return (b, first ++ rest)

/-- What the building of a host comes to after calls of a new builder. -/
def buildAfter (clock : Nat) (calls : List (BuilderCall E V F H)) (mint : BuiltIn → V)
    (log lifetime : Nat) (env : E) : Except ConfigurationError (Blueprint V F H W) :=
  (((follow calls (.new clock) env).1.1.build mint log lifetime).run.run []).1

/-! ## What calls leave -/

theorem recordError_fst (b : Builder V F H) (e : ConfigurationError) :
    (b.recordError e).1 = { b with firstError := b.firstError.or (some e) } := by
  unfold recordError
  cases first : b.firstError with
  | none => rfl
  | some _ =>
    show b = _
    rw [Option.some_or, ← first]

/-- Each part of the builder after a call is what the call gives, or what it was. -/
theorem perform_builder (call : BuilderCall E V F H) (b : Builder V F H) (env : E) :
    (call.perform b env).1.1 = {
      settings := call.settings?.getD b.settings
      registry := (call.outcome b.registry env).1.1
      hooks := b.hooks ++ call.hook?.toList
      clock := call.clock?.getD b.clock
      eventLog := call.eventLog?.or b.eventLog
      firstError := b.firstError.or (call.outcome b.registry env).1.2 } ∧
    (call.perform b env).2 = (call.outcome b.registry env).2 := by
  cases call with
  | toml text =>
    have performed : (BuilderCall.toml text).perform b env = (b.withToml text, env) := rfl
    rw [performed]
    cases read : Settings.ofToml text with
    | ok s => simp [withToml, read, Except.toOption, pure_apply]
    | error e => simp [withToml, read, recordError_fst, Except.toOption, pure_apply]
  | services configure =>
    have performed : (BuilderCall.services configure).perform b env =
        b.configureServices configure env := rfl
    rw [performed]
    cases ran : configure b.registry env with
    | mk left env' =>
      obtain ⟨r, result⟩ := left
      cases result with
      | ok _ => simp [configureServices, ran, pure_apply, bind, StateT.bind]
      | error e =>
        simp [configureServices, ran, recordError_fst, pure_apply, bind, StateT.bind]
  | _ =>
    refine ⟨?_, rfl⟩
    simp [BuilderCall.perform, withSettings, withClock, withFakeClock, withEventLog, addHook,
      pure_apply]

theorem follow_cons (call : BuilderCall E V F H) (calls : List (BuilderCall E V F H))
    (b : Builder V F H) (env : E) : (follow (call :: calls) b env).1.1 =
      (follow calls (call.perform b env).1.1 (call.perform b env).2).1.1 := rfl

theorem outcomes_cons (call : BuilderCall E V F H) (calls : List (BuilderCall E V F H))
    (r : Registry V F) (env : E) :
    (BuilderCall.outcomes (call :: calls) r env).1 =
      ((BuilderCall.outcomes calls (call.outcome r env).1.1 (call.outcome r env).2).1.1,
        (call.outcome r env).1.2.toList ++
          (BuilderCall.outcomes calls (call.outcome r env).1.1 (call.outcome r env).2).1.2) := rfl

/-- Each part of the builder after calls is what the last call that has a say in it gives; hooks are
added, and the first error is kept. -/
theorem follow_builder (calls : List (BuilderCall E V F H)) (b : Builder V F H) (env : E) :
    (follow calls b env).1.1 = {
      settings := (calls.filterMap BuilderCall.settings?).getLast?.getD b.settings
      registry := (BuilderCall.outcomes calls b.registry env).1.1
      hooks := b.hooks ++ calls.filterMap BuilderCall.hook?
      clock := (calls.filterMap BuilderCall.clock?).getLast?.getD b.clock
      eventLog := (calls.filterMap BuilderCall.eventLog?).getLast?.or b.eventLog
      firstError := b.firstError.or (BuilderCall.outcomes calls b.registry env).1.2.head? } := by
  induction calls generalizing b env with
  | nil =>
    simp [BuilderCall.outcomes, follow, pure_apply]
  | cons call calls ih =>
    obtain ⟨left, around⟩ := perform_builder call b env
    rw [follow_cons, ih, around, left, outcomes_cons]
    simp only [List.filterMap_eq_flatMap_toList, List.flatMap_cons, List.append_assoc, List.head?_append, List.getLast?_append,
      Option.head?_toList, getLast?_toList, Option.or_assoc, Option.getD_or]

/-! ## What is built -/

/-- The capabilities of the services that are installed in a host, in this order. -/
def installed (clock : ClockChoice V) (eventLog : Option V) : List Capability :=
  (if clock.isCustom then [] else [⟨"exec_testhost::clock::FakeClock"⟩]) ++
  (if eventLog.isSome then [] else [⟨"exec_testhost::event_log::InMemoryEventLog"⟩]) ++
  [⟨"dyn exec_testhost::clock::Clock"⟩, ⟨"dyn exec_testhost::event_log::EventLog"⟩,
    ⟨"exec_testhost::lifetime::HostLifetime"⟩, ⟨"exec_testhost::host::HostEnvironment"⟩]

theorem map_builtIns (b : Builder V F H) (mint : BuiltIn → V) (log lifetime : Nat) :
    (b.builtIns mint log lifetime).map Prod.fst = installed b.clock b.eventLog := by
  unfold builtIns installed
  cases b.clock <;> cases b.eventLog <;> rfl

theorem nodup_installed (clock : ClockChoice V) (eventLog : Option V) :
    (installed clock eventLog).Nodup := by
  unfold installed
  cases clock <;> cases eventLog <;> simp [ClockChoice.isCustom]

/-- Hooks that are registered one after the other with a lifetime that still runs are all accepted. -/
theorem register_hooks (hooks : List (Hook H)) (l : Lifetime H W) (running : l.phase = .running) :
    hooks.foldlM (fun l hook => l.register hook) l = .ok { l with hooks := l.hooks ++ hooks } := by
  induction hooks generalizing l with
  | nil =>
    rw [List.append_nil]
    rfl
  | cons hook hooks ih =>
    have accepted : l.register hook = .ok { l with hooks := l.hooks ++ [hook] } :=
      Lifetime.register_eq_ok_iff.mpr ⟨running, rfl⟩
    have rest := ih { l with hooks := l.hooks ++ [hook] } running
    rw [List.append_assoc] at rest
    rw [List.foldlM_cons, accepted]
    exact rest

/-- The lifetime of a host is a new one with which the hooks of the builder are registered. -/
theorem lifetimeOf_eq (b : Builder V F H) :
    b.hooks.foldlM (fun l hook => l.register hook) (Lifetime.new : Lifetime H W) =
      .ok b.lifetimeOf := register_hooks b.hooks .new rfl

/-- What is registered does not come to be found under another capability. -/
theorem contains_append (r : Registry V F) (key : Capability) (e : Entry V F) (k : Capability)
    (other : key ≠ k) : (⟨r.entries ++ [(key, e)]⟩ : Registry V F).contains k = r.contains k := by
  unfold Registry.contains Registry.find? Capability.lookup
  simp [List.find?_append, other]

/-- Services are registered one after the other up to the first whose capability is taken. -/
theorem register_each (items : List (Capability × V)) (nodup : (items.map Prod.fst).Nodup)
    (r : Registry V F) (trace : List Trace.Event) :
    ((items.foldlM (fun r x => registerReporting x.1 (.fixed x.2) r) r).run.run trace).1 =
      match (items.map Prod.fst).find? r.contains with
      | some key => .error (.duplicate key.typeName)
      | none => .ok ⟨r.entries ++ items.map fun x => (x.1, .fixed x.2)⟩ := by
  induction items generalizing r trace with
  | nil => simp; rfl
  | cons x items ih =>
    rw [List.map_cons, List.nodup_cons] at nodup
    rw [List.foldlM_cons, List.map_cons, List.find?_cons]
    cases taken : r.contains x.1 with
    | true =>
      unfold registerReporting Registry.register
      rw [taken]
      rfl
    | false =>
      have accepted : r.register x.1 (.fixed x.2) = .ok ⟨r.entries ++ [(x.1, .fixed x.2)]⟩ :=
        Registry.register_eq_ok_iff.mpr ⟨taken, rfl⟩
      have same : (items.map Prod.fst).find?
          (⟨r.entries ++ [(x.1, .fixed x.2)]⟩ : Registry V F).contains =
            (items.map Prod.fst).find? r.contains := by
        refine List.find?_congr fun k hk => contains_append r x.1 _ k fun equal => ?_
        exact nodup.1 (equal ▸ hk)
      have rest := ih nodup.2 ⟨r.entries ++ [(x.1, .fixed x.2)]⟩
        (trace ++ [.serviceRegistered x.1.typeName (Entry.fixed (F := F) x.2).lifetime.text])
      rw [same, List.append_assoc] at rest
      unfold registerReporting
      rw [accepted]
      exact rest

/-- The result of building a host, read off the builder. -/
theorem result_build (b : Builder V F H) (mint : BuiltIn → V) (log lifetime : Nat)
    (trace : List Trace.Event) :
    ((b.build mint log lifetime : ExceptT ConfigurationError (StateM (List Trace.Event))
      (Blueprint V F H W)).run.run trace).1 =
      match b.firstError with
      | some e => .error e
      | none =>
        match b.settings.badSetting? with
        | some bad => .error (.settings (.refused bad))
        | none =>
          match (installed b.clock b.eventLog).find? b.registry.contains with
          | some key => .error (.registration (.duplicate key.typeName))
          | none => .ok {
              settings := b.settings
              registry := ⟨b.registry.entries ++
                (b.builtIns mint log lifetime).map fun x => (x.1, .fixed x.2)⟩
              lifetime := b.lifetimeOf
              eventLog := match b.eventLog with
                | none => some (.empty b.clock.source b.settings.eventLogCapacity)
                | some _ => none } := by
  unfold build
  cases b.firstError with
  | some e => rfl
  | none =>
    unfold Settings.validate
    cases b.settings.badSetting? with
    | some bad => rfl
    | none =>
      have nodup : ((b.builtIns mint log lifetime).map Prod.fst).Nodup := by
        rw [map_builtIns]
        exact nodup_installed _ _
      simp only
      rw [run_reporting, register_each _ nodup, map_builtIns]
      cases (installed b.clock b.eventLog).find? b.registry.contains <;> rfl

/-! ## What histories come to -/

section Results

open BuilderCall

/-- What is to be said of the building of a host after calls of a new builder, whose clock has the
number `clock`. -/
structure BuildsExactly (W : Type) (clock : Nat) (calls : List (BuilderCall E V F H))
    (mint : BuiltIn → V) (log lifetime : Nat) (env : E) : Prop where
  /-- The earliest error of a call is what the building comes to, whatever is called after it. -/
  earliest : ∀ e, (failures calls env).head? = some e → ∀ later,
    buildAfter (W := W) clock (calls ++ later) mint log lifetime env = .error e
  /-- If no call has failed, the first of the settings that offends is refused. -/
  offending : failures calls env = [] → ∀ f, (lastSettings calls).Offends f →
    (∀ g : Setting, g.rank < f.rank → ¬ (lastSettings calls).Offends g) →
    buildAfter (W := W) clock calls mint log lifetime env =
      .error (.settings (.invalid f.name f.demand))
  /-- If none offends, the first capability is refused that the host needs for itself and that is
  taken. -/
  conflict : failures calls env = [] → (∀ f, ¬ (lastSettings calls).Offends f) →
    ∀ before key after,
      installed (lastClock clock calls) (lastEventLog calls) = before ++ key :: after →
      (∀ k ∈ before, (registered calls env).contains k = false) →
      (registered calls env).contains key = true →
      buildAfter (W := W) clock calls mint log lifetime env =
        .error (.registration (.duplicate key.typeName))
  /-- Otherwise the host is built: with the settings that were set last, with all that was registered
  and then its own services, with the hooks in order and, unless another one is used, with a log. -/
  accepted : failures calls env = [] → (∀ f, ¬ (lastSettings calls).Offends f) →
    (∀ key ∈ installed (lastClock clock calls) (lastEventLog calls),
      (registered calls env).contains key = false) →
    ∃ services : List (Capability × V),
      services.map Prod.fst = installed (lastClock clock calls) (lastEventLog calls) ∧
      buildAfter (W := W) clock calls mint log lifetime env = .ok {
        settings := lastSettings calls
        registry := ⟨(registered calls env).entries ++ services.map fun x => (x.1, .fixed x.2)⟩
        lifetime := ⟨.running, calls.filterMap hook?, []⟩
        eventLog := match lastEventLog calls with
          | none => some (.empty (lastClock clock calls).source (lastSettings calls).eventLogCapacity)
          | some _ => none }
  /-- So a host is built just if no call has failed, no setting offends and nothing is taken. -/
  accepted_iff : (∃ p, buildAfter (W := W) clock calls mint log lifetime env = .ok p) ↔
    failures calls env = [] ∧ (∀ f, ¬ (lastSettings calls).Offends f) ∧
      ∀ key ∈ installed (lastClock clock calls) (lastEventLog calls),
        (registered calls env).contains key = false

theorem outcomes_append (calls later : List (BuilderCall E V F H)) (r : Registry V F) (env : E) :
    ∃ es, (outcomes (calls ++ later) r env).1.2 = (outcomes calls r env).1.2 ++ es := by
  induction calls generalizing r env with
  | nil => exact ⟨_, rfl⟩
  | cons call calls ih =>
    obtain ⟨es, rest⟩ := ih (call.outcome r env).1.1 (call.outcome r env).2
    refine ⟨es, ?_⟩
    rw [List.cons_append, outcomes_cons, outcomes_cons, rest, List.append_assoc]

/-- The builder that the calls of a new one leave. -/
theorem follow_new (clock : Nat) (calls : List (BuilderCall E V F H)) (env : E) :
    (follow calls (.new clock) env).1.1 = {
      settings := lastSettings calls
      registry := registered calls env
      hooks := calls.filterMap hook?
      clock := lastClock clock calls
      eventLog := lastEventLog calls
      firstError := (failures calls env).head? } := by
  rw [follow_builder]
  simp only [new, Option.none_or, Option.or_none, List.nil_append]
  rfl

theorem buildAfter_of_failure {clock : Nat} {calls : List (BuilderCall E V F H)} {env : E}
    {e : ConfigurationError} (failed : (failures calls env).head? = some e) (mint : BuiltIn → V)
    (log lifetime : Nat) : buildAfter (W := W) clock calls mint log lifetime env = .error e := by
  unfold buildAfter
  rw [result_build, follow_new, failed]

theorem buildAfter_of_success {clock : Nat} {calls : List (BuilderCall E V F H)} {env : E}
    (none_failed : failures calls env = []) (mint : BuiltIn → V) (log lifetime : Nat) :
    buildAfter (W := W) clock calls mint log lifetime env =
      match (lastSettings calls).badSetting? with
      | some bad => .error (.settings (.refused bad))
      | none =>
        match (installed (lastClock clock calls) (lastEventLog calls)).find?
            (registered calls env).contains with
        | some key => .error (.registration (.duplicate key.typeName))
        | none => .ok {
            settings := lastSettings calls
            registry := ⟨(registered calls env).entries ++
              ((follow calls (.new clock) env).1.1.builtIns mint log lifetime).map
                fun x => (x.1, .fixed x.2)⟩
            lifetime := ⟨.running, calls.filterMap hook?, []⟩
            eventLog := match lastEventLog calls with
              | none =>
                some (.empty (lastClock clock calls).source (lastSettings calls).eventLogCapacity)
              | some _ => none } := by
  unfold buildAfter
  rw [result_build, follow_new, none_failed]
  rfl

theorem find?_of_free {clock : ClockChoice V} {eventLog : Option V} {r : Registry V F}
    (free : ∀ key ∈ installed clock eventLog, r.contains key = false) :
    (installed clock eventLog).find? r.contains = none := by
  refine List.find?_eq_none.mpr fun k hk => ?_
  rw [free k hk]
  exact Bool.false_ne_true

theorem buildAfter_of_free {clock : Nat} {calls : List (BuilderCall E V F H)} {env : E}
    (none_failed : failures calls env = []) (valid : ∀ f, ¬ (lastSettings calls).Offends f)
    (free : ∀ key ∈ installed (lastClock clock calls) (lastEventLog calls),
      (registered calls env).contains key = false) (mint : BuiltIn → V) (log lifetime : Nat) :
    ∃ services : List (Capability × V),
      services.map Prod.fst = installed (lastClock clock calls) (lastEventLog calls) ∧
      buildAfter (W := W) clock calls mint log lifetime env = .ok {
        settings := lastSettings calls
        registry := ⟨(registered calls env).entries ++ services.map fun x => (x.1, .fixed x.2)⟩
        lifetime := ⟨.running, calls.filterMap hook?, []⟩
        eventLog := match lastEventLog calls with
          | none => some (.empty (lastClock clock calls).source (lastSettings calls).eventLogCapacity)
          | some _ => none } := by
  refine ⟨(follow calls (.new clock) env).1.1.builtIns mint log lifetime, ?_, ?_⟩
  · rw [map_builtIns, follow_new]
  · rw [buildAfter_of_success none_failed, Settings.badSetting?_eq_none_iff.mpr valid, find?_of_free free]

/-- Where a host is built, nothing spoke against it. -/
theorem free_of_buildAfter {clock : Nat} {calls : List (BuilderCall E V F H)} {env : E}
    {mint : BuiltIn → V} {log lifetime : Nat} {p : Blueprint V F H W}
    (built : buildAfter clock calls mint log lifetime env = .ok p) :
    failures calls env = [] ∧ (∀ f, ¬ (lastSettings calls).Offends f) ∧
      ∀ key ∈ installed (lastClock clock calls) (lastEventLog calls),
        (registered calls env).contains key = false := by
  cases failed : failures calls env with
  | cons e es =>
    have first : (failures calls env).head? = some e := by rw [failed]; rfl
    rw [buildAfter_of_failure first] at built
    cases built
  | nil =>
    rw [buildAfter_of_success failed] at built
    cases bad : (lastSettings calls).badSetting? with
    | some f =>
      rw [bad] at built
      cases built
    | none =>
      rw [bad] at built
      cases taken : (installed (lastClock clock calls) (lastEventLog calls)).find?
          (registered calls env).contains with
      | some key =>
        rw [taken] at built
        cases built
      | none =>
        refine ⟨rfl, Settings.badSetting?_eq_none_iff.mp bad, fun key needed => ?_⟩
        exact Bool.eq_false_iff.mpr (List.find?_eq_none.mp taken key needed)

/-- Where a host is built, it is built with its own services on top of all that was registered. -/
theorem blueprint_of_buildAfter {clock : Nat} {calls : List (BuilderCall E V F H)} {env : E}
    {mint : BuiltIn → V} {log lifetime : Nat} {p : Blueprint V F H W}
    (built : buildAfter clock calls mint log lifetime env = .ok p) : p = {
      settings := lastSettings calls
      registry := ⟨(registered calls env).entries ++
        ((follow calls (.new clock) env).1.1.builtIns mint log lifetime).map
          fun x => (x.1, .fixed x.2)⟩
      lifetime := ⟨.running, calls.filterMap hook?, []⟩
      eventLog := match lastEventLog calls with
        | none => some (.empty (lastClock clock calls).source (lastSettings calls).eventLogCapacity)
        | some _ => none } := by
  obtain ⟨none_failed, valid, free⟩ := free_of_buildAfter built
  rw [buildAfter_of_success none_failed, Settings.badSetting?_eq_none_iff.mpr valid,
    find?_of_free free] at built
  exact (Except.ok.inj built).symm

/-- After any calls of a builder, a host is built or refused just as the calls say. -/
theorem builds_exactly (W : Type) (clock : Nat) (calls : List (BuilderCall E V F H))
    (mint : BuiltIn → V) (log lifetime : Nat) (env : E) :
    BuildsExactly W clock calls mint log lifetime env := by
  constructor
  case earliest =>
    intro e failed later
    obtain ⟨es, more⟩ := outcomes_append calls later .empty env
    refine buildAfter_of_failure ?_ mint log lifetime
    unfold failures at failed ⊢
    rw [more, List.head?_append, failed, Option.some_or]
  case offending =>
    intro none_failed f offends first
    rw [buildAfter_of_success none_failed, Settings.badSetting?_eq_some offends first]
    rfl
  case conflict =>
    intro none_failed valid before key after order free taken
    have found : (installed (lastClock clock calls) (lastEventLog calls)).find?
        (registered calls env).contains = some key := by
      refine List.find?_eq_some_iff_append.mpr ⟨taken, before, after, order, fun k hk => ?_⟩
      rw [free k hk]
      rfl
    rw [buildAfter_of_success none_failed, Settings.badSetting?_eq_none_iff.mpr valid, found]
  case accepted =>
    intro none_failed valid free
    exact buildAfter_of_free none_failed valid free mint log lifetime
  case accepted_iff =>
    constructor
    · rintro ⟨p, built⟩
      exact free_of_buildAfter built
    · rintro ⟨none_failed, valid, free⟩
      obtain ⟨services, -, built⟩ := buildAfter_of_free none_failed valid free mint log lifetime
      exact ⟨_, built⟩

/-- Two capabilities are taken. Which of them is refused depends on the clock that was chosen last,
and a timeout of no length was made good by then. -/
example : let taken : BuilderCall Unit Unit Unit Unit := .services fun r =>
      return (⟨r.entries ++ [(⟨"dyn exec_testhost::clock::Clock"⟩, .fixed ()),
        (⟨"exec_testhost::clock::FakeClock"⟩, .fixed ())]⟩, .ok ())
    let calls := [.settings ⟨"bench", .zero, none⟩, taken, .clock .system (), .settings default]
    buildAfter (W := Unit) 0 (calls ++ [.fakeClock 1]) (fun _ => ()) 0 0 () =
        .error (.registration (.duplicate "exec_testhost::clock::FakeClock")) ∧
      buildAfter (W := Unit) 0 calls (fun _ => ()) 0 0 () =
        .error (.registration (.duplicate "dyn exec_testhost::clock::Clock")) := ⟨rfl, rfl⟩

end Results

end Builder

end HostBench
