/-
  The commands of scenarios: each of them only uses the lifetime and the provider of a host without a
  name, and so do the callbacks that commands lead to, however deep these lead into one another
  (`spare_callbacks`).
-/
import HostBench.Proofs.Scenario.Acts
import HostBench.Scenario.Perform

namespace HostBench.Scenario

namespace Home

variable {home : Home} {cb : Callbacks} {α β : Type}

/-! ## Clocks and futures -/

theorem spares_clock (spare : cb.Spare home) (c : ClockCommand) : home.Spares (c.perform cb).run := by
  cases c with
  | create name headroom =>
    exact spares_act_bind (spares_newClock _) fun _ =>
      spares_act_bind (spares_clockEntry _ _ _) fun _ =>
        spares_act_bind (spares_nameClock _ _) fun _ => spares_try_pure _
  | copy name target =>
    exact spares_try_bind (spares_named _ _ _) fun _ =>
      spares_act_bind (spares_nameClock _ _) fun _ => spares_try_pure _
  | hide name target =>
    exact spares_try_bind (spares_named _ _ _) fun _ =>
      spares_act_bind (spares_nameClock _ _) fun _ => spares_try_pure _
  | system name =>
    exact spares_act_bind (spares_clockEntry _ _ _) fun _ =>
      spares_act_bind (spares_nameClock _ _) fun _ => spares_try_pure _
  | now name =>
    refine spares_try_bind (spares_named _ _ _) fun _ => ?_
    refine spares_act_bind spares_get fun _ => ?_
    split <;> exact spares_try_pure _
  | advance name delta =>
    exact spares_try_bind (spares_movableClock name) fun clock =>
      spares_act_bind (has_advanceAt (open_clockAt clock) (fun _ => spares_report _)
        (spares_wake spare) delta) fun _ =>
        spares_act_bind spares_get fun _ => spares_try_pure _
  | elapsed name | pending name | debug name pretty =>
    exact spares_try_bind (spares_movableClock name) fun _ =>
      spares_act_bind spares_get fun _ => spares_try_pure _
  | sleep name future length =>
    exact spares_try_bind (spares_named _ _ _) fun _ =>
      spares_act_bind (spares_sleepOn _ _) fun f =>
        spares_act_bind (spares_nameFuture future f) fun _ => spares_try_pure _

theorem spares_future (c : FutureCommand) : home.Spares c.perform.run := by
  cases c with
  | poll name waker =>
    refine spares_try_bind (spares_named _ _ _) fun f => ?_
    refine spares_act_bind (spares_pollFuture _ f) fun (f, ready) => ?_
    dsimp only
    split
    · exact spares_act_bind (spares_forgetFuture name) fun _ => spares_try_pure _
    · exact spares_act_bind (spares_modify fun _ => rfl) fun _ => spares_try_pure _
  | drop name =>
    exact spares_try_bind (spares_named _ _ _) fun f =>
      spares_act_bind (spares_forgetFuture name) fun _ =>
        spares_act_bind (spares_abandonFuture f) fun _ => spares_try_pure _

/-! ## Registries and builders -/

theorem spares_nameRegistry (name : String) (r : Registry Service Factory) :
    home.Spares (nameRegistry name r) := spares_modify fun _ => rfl

theorem spares_registry (spare : cb.Spare home) (c : RegistryCommand Command) :
    home.Spares (c.perform cb).run := by
  cases c with
  | create name =>
    exact spares_act_bind (spares_nameRegistry _ _) fun _ => spares_try_pure _
  | copy name target =>
    exact spares_try_bind (spares_named _ _ _) fun _ =>
      spares_act_bind (spares_nameRegistry _ _) fun _ => spares_try_pure _
  | drop name =>
    exact spares_try_bind (spares_named _ _ _) fun _ =>
      spares_act_bind (spares_modify fun _ => rfl) fun _ => spares_try_pure _
  | add name r =>
    refine spares_try_bind (spares_named _ _ _) fun registry => ?_
    refine spares_try_bind (spares_entryOf r) fun e => ?_
    refine spares_act_bind (spares_register spare _ _ e) fun result => ?_
    cases result with
    | error e => exact spares_throw _
    | ok registry =>
      exact spares_act_bind (spares_nameRegistry _ _) fun _ => spares_try_pure _
  | contains name key | info name pretty =>
    exact spares_try_bind (spares_named _ _ _) fun _ => spares_try_pure _

theorem spares_nameLifetime (name : String) (lifetime : Nat) :
    home.Spares (nameLifetime name lifetime) := spares_modify fun _ => rfl

theorem spares_nameBuilder (name : String) (b : HostBuilder) : home.Spares (nameBuilder name b) :=
  spares_modify fun _ => rfl

theorem spares_takeBuilder (name : String) : home.Spares (takeBuilder name).run :=
  spares_try_bind (spares_named _ _ _) fun _ =>
    spares_act_bind (spares_modify fun _ => rfl) fun _ => spares_try_pure _

theorem spares_reportAll (es : List Trace.Event) : home.Spares (reportAll es) :=
  has_forM spares_report es

theorem spares_state_bind {τ : Type} {m : StateT τ Act α} {k : α → StateT τ Act β}
    (first : ∀ x, home.Spares (m.run x)) (next : ∀ a x, home.Spares ((k a).run x)) (x : τ) :
    home.Spares ((m >>= k).run x) :=
  fun w unnamed => (first x w unnamed).trans (next _ _ _ (first x w unnamed).unnamed)

theorem spares_state_lift {τ : Type} {m : Act α} (spares : home.Spares m) (x : τ) :
    home.Spares ((liftM m : StateT τ Act α).run x) :=
  fun w unnamed => spares w unnamed

theorem spares_state_forM {τ : Type} {f : α → StateT τ Act PUnit}
    (each : ∀ a x, home.Spares ((f a).run x)) (l : List α) (x : τ) :
    home.Spares ((l.forM f).run x) := by
  induction l generalizing x with
  | nil => exact home.sparing.pure _
  | cons a l ih => exact spares_state_bind (each a) (fun _ => ih) x

theorem spares_registerAll (spare : cb.Spare home) (ignoreErrors : Bool)
    (rs : List (Registration Command)) (registry : Registry Service Factory)
    (absent : Option Failure) :
    home.Spares ((registerAll cb ignoreErrors rs registry).run absent) := by
  induction rs generalizing registry absent with
  | nil =>
    exact spares_state_bind (spares_state_lift (spares_note _)) (fun _ _ => home.sparing.pure _)
      absent
  | cons r rest ih =>
    refine spares_state_bind (spares_state_lift (spares_entryOf r)) (fun made => ?_) absent
    cases made with
    | error absent => exact fun _ => home.sparing.pure _
    | ok e =>
      refine spares_state_bind (spares_state_lift (spares_register spare _ _ e)) fun result => ?_
      cases result with
      | ok registry =>
        exact spares_state_bind
          (spares_state_forM (fun s => spares_state_lift (spares_hold s)) (heldByEntry e))
          fun _ => ih registry
      | error refusal =>
        intro x
        cases ignoreErrors with
        | true => exact ih registry x
        | false => exact home.sparing.pure _

theorem spares_configure (spare : cb.Spare home) (name : String)
    (rs : List (Registration Command)) (ignoreErrors : Bool) :
    home.Spares (configure cb name rs ignoreErrors).run := by
  have configures : ∀ b : HostBuilder,
      home.Spares ((b.configureServices (registerAll cb ignoreErrors rs)).run none) := by
    intro b
    refine spares_state_bind (spares_registerAll spare ignoreErrors rs _) ?_ none
    rintro ⟨registry, result⟩ x
    cases result <;> exact home.sparing.pure _
  refine spares_try_bind (spares_takeBuilder name) fun b => ?_
  refine spares_try_bind (spares_try_forM (fun s => spares_lift (spares_hold s)) _) fun _ => ?_
  refine spares_act_bind (configures b) fun ((b', events), absent) => ?_
  refine spares_act_bind (spares_reportAll events) fun _ => ?_
  refine spares_try_bind (spares_try_forM (fun s => spares_lift (spares_letGo s)) _) fun _ => ?_
  refine spares_act_bind (spares_nameBuilder name b') fun _ => ?_
  cases absent with
  | some e => exact spares_throw e
  | none => exact spares_try_pure _

/-! ## Hosts -/

theorem composed (spare : cb.Spare home) : (stage cb).toStage.Composed home.sparing where
  timer := open_timer
  report := spares_report
  poll := spares_pollRoutine spare .main
  abandon := spares_abandonRoutine

/-- The host is kept elsewhere, so that its end does not matter. -/
theorem spares_drop (spare : cb.Spare home) {h : Host} (other : home.Other h) :
    home.Spares (h.drop (stage cb)) :=
  Host.has_drop <| Host.closing { composed spare with
    lifetime := ⟨fun _ unnamed => .refl unnamed,
      fun _ _ unnamed => leaves_lifetime unnamed fun same => absurd same other.lifetime_ne⟩
    provider := ⟨fun _ unnamed => .refl unnamed,
      fun _ _ unnamed => leaves_provider unnamed fun same => absurd same other.provider_ne⟩
    wake := spares_wake spare
    discard := spares_collect spare }

theorem spares_nameHost (spare : cb.Spare home) (name : String) {h : Host} (other : home.Other h) :
    home.Spares (nameHost cb name h) := by
  refine spares_of_get fun w unnamed => ?_
  have renamed : home.Leaves w { w with hostNames := w.hostNames.insert name h } := {
    unnamed := { unnamed with
      other := fun h' there => by
        rcases Names.eq_or_mem_of_mem_insert there with rfl | old
        · exact other
        · exact unnamed.other h' old }
    lifetime := .refl
    provider := .refl }
  refine renamed.trans ?_
  cases named : w.hostNames.find? name with
  | some old =>
    exact spares_drop spare (unnamed.other old (Names.mem_of_find? named)) _ renamed.unnamed
  | none => exact .refl renamed.unnamed

theorem finds_host (name : String) : home.Finds (named (·.hostNames) "hosts" name) home.Other :=
  finds_named "hosts" name fun _ unnamed => unnamed.other

theorem finds_takeHost (name : String) : home.Finds (takeHost name) home.Other := by
  refine (finds_host name).bind fun h other => ?_
  have erases : home.Spares (modify fun w => { w with hostNames := w.hostNames.erase name } :
      Act Unit) :=
    fun w unnamed => leaves_of_beside unnamed ⟨rfl, rfl, fun _ kept => Names.mem_of_mem_erase kept⟩
  exact (finds_of_spares (spares_lift erases)).bind fun _ _ => finds_pure other

/-- A host that is built is put at places of its own. -/
theorem yields_putHost (p : Blueprint Service Factory Body Waker) :
    home.Yields (putHost p) home.Other := by
  intro w unnamed
  refine ⟨{ unnamed := ⟨?_, ?_, unnamed.other⟩, lifetime := ?_, provider := ?_ }, ?_⟩
  · show home.lifetime < (w.lifetimes.push p.lifetime).size
    rw [Array.size_push]
    exact Nat.lt_succ_of_lt unnamed.lifetime_lt
  · show home.provider < (w.providers.push (.ofRegistry p.registry)).size
    rw [Array.size_push]
    exact Nat.lt_succ_of_lt unnamed.provider_lt
  · show Lifetime.Uses (w.lifetimes.getD home.lifetime default)
      ((w.lifetimes.push p.lifetime).getD home.lifetime default)
    simp only [Array.getD_eq_getD_getElem?, Array.getElem?_push_lt unnamed.lifetime_lt,
      Array.getElem?_eq_getElem unnamed.lifetime_lt]
    exact .refl
  · show Provider.Uses (w.providers.getD home.provider default)
      ((w.providers.push (.ofRegistry p.registry)).getD home.provider default)
    simp only [Array.getD_eq_getD_getElem?, Array.getElem?_push_lt unnamed.provider_lt,
      Array.getElem?_eq_getElem unnamed.provider_lt]
    exact .refl
  · exact ⟨(Nat.ne_of_lt unnamed.lifetime_lt).symm, (Nat.ne_of_lt unnamed.provider_lt).symm⟩

theorem yields_raise (b : HostBuilder) (mint : BuiltIn → Service) (log lifetime : Nat) :
    home.Yields (b.raise mint log lifetime report putHost)
      fun result => ∀ h, result = .ok h → home.Other h := by
  unfold Builder.raise
  obtain ⟨result, events⟩ := (b.build mint log lifetime).run.run []
  refine Yields.bind (yields_iff.mpr (has_forM spares_report events)) fun _ _ => ?_
  cases result with
  | error e => exact fun w unnamed => ⟨.refl unnamed, fun h found => by cases found⟩
  | ok p =>
    refine (yields_putHost p).bind fun h other => ?_
    exact fun w unnamed => ⟨.refl unnamed, fun h' found => by cases found; exact other⟩

theorem finds_buildHost (name : String) : home.Finds (buildHost name) home.Other := by
  have counts : home.Spares (modify fun w => { w with allocations := w.allocations + 6 } : Act Unit) :=
    spares_modify fun _ => rfl
  refine (finds_of_spares (spares_takeBuilder name)).bind fun b _ => ?_
  refine (finds_of_spares (spares_lift spares_get)).bind fun w _ => ?_
  refine (finds_of_spares (spares_lift counts)).bind fun _ _ => ?_
  refine (finds_lift (yields_raise b _ _ _)).bind fun result other => ?_
  cases result with
  | error e => exact finds_throw _
  | ok h => exact finds_pure (other h rfl)

theorem spares_builder (spare : cb.Spare home) (c : BuilderCommand Command) :
    home.Spares (c.perform cb).run := by
  have changes : ∀ (name : String) (f : HostBuilder → HostBuilder),
      home.Spares (BuilderCommand.perform.change name f).run := fun name f =>
    spares_try_bind (spares_named _ _ _) fun _ =>
      spares_act_bind (spares_nameBuilder _ _) fun _ => spares_try_pure _
  cases c with
  | create name =>
    exact spares_act_bind (spares_newClock _) fun _ =>
      spares_act_bind (spares_nameBuilder _ _) fun _ => spares_try_pure _
  | settings name s => exact changes name (·.withSettings s)
  | hook name h => exact changes name (·.addHook h)
  | toml name document =>
    refine spares_try_bind (spares_named _ _ _) fun b => ?_
    obtain ⟨b, events⟩ := b.withToml document
    exact spares_act_bind (spares_reportAll events) fun _ =>
      spares_act_bind (spares_nameBuilder _ _) fun _ => spares_try_pure _
  | fakeClock name source =>
    exact spares_try_bind (spares_named _ _ _) fun _ =>
      spares_try_bind (spares_movableClock source) fun _ =>
        spares_act_bind (spares_nameBuilder _ _) fun _ => spares_try_pure _
  | clock name source =>
    exact spares_try_bind (spares_named _ _ _) fun _ =>
      spares_try_bind (spares_named _ _ _) fun _ =>
        spares_act_bind (spares_nameBuilder _ _) fun _ => spares_try_pure _
  | log name source =>
    exact spares_try_bind (spares_named _ _ _) fun _ =>
      spares_try_bind (spares_named _ _ _) fun _ =>
        spares_act_bind (spares_newService _) fun _ =>
          spares_act_bind (spares_nameBuilder _ _) fun _ => spares_try_pure _
  | registry name source =>
    exact spares_try_bind (spares_named _ _ _) fun _ =>
      spares_try_bind (spares_named _ _ _) fun _ =>
        spares_act_bind (spares_nameBuilder _ _) fun _ => spares_try_pure _
  | services name rs ignoreErrors => exact spares_configure spare name rs ignoreErrors
  | debug name pretty => exact spares_try_bind (spares_named _ _ _) fun _ => spares_try_pure _
  | drop name => exact spares_try_bind (spares_takeBuilder name) fun _ => spares_try_pure _
  | build name host pretty =>
    refine Finds.spares ((finds_buildHost name).bind fun h other => finds_of_spares ?_)
    exact spares_act_bind (spares_nameHost spare host other) fun _ =>
      spares_act_bind spares_get fun _ => spares_try_pure _

theorem spares_host (spare : cb.Spare home) (c : HostCommand) : home.Spares (c.perform cb).run := by
  cases c with
  | info name pretty =>
    exact spares_try_bind (spares_named _ _ _) fun _ =>
      spares_act_bind spares_get fun _ => spares_try_pure _
  | provider name target =>
    refine spares_try_bind (spares_named _ _ _) fun h => ?_
    cases h.services with
    | error e => exact spares_throw _
    | ok id =>
      have names : home.Spares (nameProvider target id) := spares_modify fun _ => rfl
      exact spares_act_bind names fun _ => spares_try_pure _
  | lifetime name target =>
    refine spares_try_bind (spares_named _ _ _) fun h => ?_
    cases h.lifetimeOf with
    | error e => exact spares_throw _
    | ok id =>
      exact spares_act_bind (spares_nameLifetime target id) fun _ => spares_try_pure _
  | drop name =>
    refine Finds.spares ((finds_takeHost name).bind fun h other => finds_of_spares ?_)
    exact spares_act_bind (spares_drop spare other) fun _ => spares_try_pure _

/-! ## Lifetimes -/

theorem spares_lifetime (c : LifetimeCommand Command) : home.Spares c.perform.run := by
  have looks : ∀ name : String, home.Spares (LifetimeCommand.perform.look name).run := fun name =>
    spares_try_bind (spares_named _ _ _) fun _ =>
      spares_act_bind spares_get fun _ => spares_try_pure _
  cases c with
  | info name pretty => exact spares_try_bind (looks name) fun _ => spares_try_pure _
  | hook name h =>
    intro w unnamed
    have named := run_named (·.lifetimeNames) "lives" name w
    cases there : w.lifetimeNames.find? name with
    | none =>
      rw [there] at named
      show home.Leaves w (((Scenario.named (·.lifetimeNames) "lives" name >>= _ : Try Json)).run w).2
      rw [run_bind_of_error named]
      exact .refl unnamed
    | some id =>
      rw [there] at named
      -- the name is looked up twice, in the same world
      have looked : (LifetimeCommand.perform.look name).run w =
          (.ok ((World.lifetimeAt id).get w), w) := run_bind_of_ok named
      show home.Leaves w (((Scenario.named (·.lifetimeNames) "lives" name >>= _ : Try Json)).run w).2
      rw [run_bind_of_ok named, run_bind_of_ok looked]
      cases accepted : ((World.lifetimeAt id).get w).register h with
      | error e => exact .refl unnamed
      | ok l =>
        have registered : home.Leaves w ((World.lifetimeAt id).set l w) :=
          leaves_lifetime unnamed fun _ => .register accepted
        exact registered.trans (spares_report (.hookRegistered h.label) _ registered.unnamed)
  | wait name future goal =>
    exact spares_try_bind (spares_named _ _ _) fun id =>
      spares_act_bind (spares_waitFor id goal) fun f =>
        spares_act_bind (spares_nameFuture future f) fun _ => spares_try_pure _
  | watch name task goal =>
    exact spares_try_bind (spares_named _ _ _) fun _ =>
      spares_act_bind (spares_newTask _) fun _ =>
        spares_act_bind (spares_modify fun _ => rfl) fun _ => spares_try_pure _

/-! ## Event logs and adapters -/

theorem spares_nameLog (name : String) (l : LogEntry) : home.Spares (nameLog name l) :=
  spares_modify fun _ => rfl

theorem spares_recordsOf (name : String) (pick : EventLog → List EventRecord) :
    home.Spares (recordsOf name pick).run :=
  spares_try_bind (spares_named _ _ _) fun _ =>
    spares_act_bind spares_get fun _ => spares_try_pure _

theorem open_logAt (i : Nat) : (World.logAt i).Open home.sparing := open_of_hosting fun _ _ => rfl

theorem spares_log (c : LogCommand) : home.Spares c.perform.run := by
  cases c with
  | create name clock limit =>
    exact spares_try_bind (spares_named _ _ _) fun _ =>
      spares_act_bind spares_get fun _ =>
        spares_act_bind (spares_modify fun _ => rfl) fun _ =>
          spares_act_bind (spares_nameLog _ _) fun _ => spares_try_pure _
  | append name stream kind payload =>
    refine spares_try_bind (spares_named _ _ _) fun l => ?_
    refine spares_act_bind spares_get fun w => ?_
    refine spares_act_bind spares_get fun w' => ?_
    split
    · exact spares_throw _
    · exact spares_act_bind ((open_logAt _).write _) fun _ =>
        spares_act_bind (spares_report _) fun _ => spares_try_pure _
  | read name stream first => exact spares_recordsOf name (·.readStream stream first)
  | all name => exact spares_recordsOf name (·.records)
  | size name =>
    exact spares_try_bind (spares_named _ _ _) fun _ =>
      spares_act_bind spares_get fun _ => spares_try_pure _
  | debug name pretty | capacity name =>
    exact spares_try_bind (spares_memoryLog name) fun _ =>
      spares_act_bind spares_get fun _ => spares_try_pure _
  | decode name sequence shape =>
    refine spares_try_bind (spares_named _ _ _) fun _ => ?_
    refine spares_act_bind spares_get fun _ => ?_
    split
    · exact spares_throw _
    · split
      · exact spares_throw _
      · exact spares_try_pure _

theorem open_adapterAt (i : Nat) : (World.adapterAt i).Open home.sparing :=
  open_of_hosting fun _ _ => rfl

theorem spares_call (spare : cb.Spare home) (id : Nat) (request : Json) :
    home.Spares (Adapter.call (World.adapterAt id)
      (fun adapter callIndex => report (.adapterInvoked adapter callIndex)) (answerBy cb)
      request) := by
  refine home.sparing.bind (open_adapterAt id).read fun a => ?_
  obtain ⟨a, reply⟩ := a.begin request
  refine home.sparing.bind ((open_adapterAt id).write a) fun _ => ?_
  refine home.sparing.bind (spares_report _) fun _ => ?_
  cases reply with
  | done result => exact home.sparing.pure _
  | ask f => exact home.sparing.bind (spares_run spare _ f.run) fun _ => home.sparing.pure _

theorem spares_adapter (spare : cb.Spare home) (c : AdapterCommand Command) :
    home.Spares (c.perform cb).run := by
  have names : ∀ name adapter, home.Spares (nameAdapter name adapter) :=
    fun _ _ => spares_modify fun _ => rfl
  have looks : ∀ name : String, home.Spares (AdapterCommand.perform.look name).run := fun name =>
    spares_try_bind (spares_named _ _ _) fun _ =>
      spares_act_bind spares_get fun _ => spares_try_pure _
  have changes : ∀ (name : String)
      (f : Adapter Json Json (Fallback Command) → Adapter Json Json (Fallback Command)),
      home.Spares (AdapterCommand.perform.change name f).run := fun name f =>
    spares_try_bind (spares_named _ _ _) fun _ =>
      spares_act_bind (spares_modify fun _ => rfl) fun _ => spares_try_pure _
  cases c with
  | create name adapter =>
    exact spares_act_bind spares_get fun _ =>
      spares_act_bind (spares_modify fun _ => rfl) fun _ =>
        spares_act_bind (names _ _) fun _ => spares_try_pure _
  | copy name target =>
    exact spares_try_bind (spares_named _ _ _) fun _ =>
      spares_act_bind (names _ _) fun _ => spares_try_pure _
  | respond name responses =>
    exact changes name fun a => responses.foldl (fun a r => a.push (.respond r)) a
  | fail name message => exact changes name (·.push (.fail message))
  | fallback name f => exact changes name (·.setFallback f)
  | call name request =>
    refine spares_try_bind (spares_named _ _ _) fun id => ?_
    refine spares_act_bind (spares_call spare id request) fun result => ?_
    cases result with
    | ok v => exact spares_try_pure _
    | error e => exact spares_throw _
  | calls name | info name | debug name pretty =>
    exact spares_try_bind (looks name) fun _ => spares_try_pure _

/-! ## Providers and handles -/

theorem spares_resolveIn (spare : cb.Spare home) (name : String) (key : Key) :
    home.Spares (resolveIn cb name key).run :=
  spares_try_bind (spares_named _ _ _) fun _ => spares_lift (spares_resolve spare _ _)

theorem spares_showAndKeep (s : Service) (handle : Option String) :
    home.Spares (showAndKeep s handle) := by
  refine home.sparing.bind spares_get fun w => ?_
  cases handle with
  | none => exact home.sparing.bind (spares_letGo s) fun _ => home.sparing.pure _
  | some name =>
    exact home.sparing.bind (spares_modify fun _ => rfl) fun _ =>
      home.sparing.bind (spares_letGo s) fun _ => home.sparing.pure _

theorem spares_resolveContent (spare : cb.Spare home) (name : String) (b : BuiltIn) :
    home.Spares (resolveContent cb name b).run := by
  refine spares_try_bind (spares_named _ _ _) fun provider => ?_
  refine spares_act_bind (spares_resolve spare provider _) fun result => ?_
  cases result with
  | error e => exact spares_throw _
  | ok s => exact spares_act_bind (spares_letGo s) fun _ => spares_try_pure _

theorem spares_memoryBehind (spare : cb.Spare home) (name : String) :
    home.Spares (memoryBehind cb name) := by
  refine home.sparing.bind (spares_resolveContent spare name _) fun result => ?_
  cases result <;> exact home.sparing.pure _

theorem spares_resolveMany (spare : cb.Spare home) (provider : Nat) (key : Capability) (n : Nat) :
    home.Spares (resolveMany cb provider key n) := by
  induction n with
  | zero => exact home.sparing.pure _
  | succ n ih =>
    refine home.sparing.bind (spares_resolve spare provider key) fun result => ?_
    refine home.sparing.bind ih fun (services, errors) => ?_
    cases result <;> exact home.sparing.pure _

theorem spares_aside {act : Act α} (spares : home.Spares act) : home.Spares (aside act) :=
  home.sparing.bind spares_get fun _ => home.sparing.bind spares_get fun _ =>
    home.sparing.bind (spares_modify fun _ => rfl) fun _ =>
      home.sparing.bind spares fun _ =>
        home.sparing.bind (spares_modify fun _ => rfl) fun _ => home.sparing.pure _

theorem spares_letAllGo (spare : cb.Spare home) (services : List Service) :
    home.Spares (letAllGo cb services) :=
  home.sparing.bind (has_forM spares_letGo services) fun _ => spares_collect spare

theorem spares_provider (spare : cb.Spare home) (c : ProviderCommand) :
    home.Spares (c.perform cb).run := by
  have looks : ∀ name : String, home.Spares (ProviderCommand.perform.look name).run := fun name =>
    spares_try_bind (spares_named _ _ _) fun _ =>
      spares_act_bind spares_get fun _ => spares_try_pure _
  cases c with
  | get name key handle =>
    refine spares_try_bind (spares_resolveIn spare name key) fun result => ?_
    cases result with
    | error e => exact spares_throw _
    | ok s => exact spares_lift (spares_showAndKeep s handle)
  | tryGet name key handle =>
    refine spares_try_bind (spares_resolveIn spare name key) fun result => ?_
    cases result with
    | error e => exact spares_try_pure _
    | ok s =>
      exact spares_act_bind (spares_showAndKeep s handle) fun _ => spares_try_pure _
  | contains name key => exact spares_try_bind (looks name) fun _ => spares_try_pure _
  | types name =>
    refine spares_try_bind (looks name) fun p => ?_
    cases p.types with
    | error e => exact spares_throw _
    | ok listed => exact spares_try_pure _
  | info name pretty => exact spares_try_bind (looks name) fun _ => spares_try_pure _
  | concurrent name key count =>
    refine spares_try_bind (spares_named _ _ _) fun provider => ?_
    refine spares_act_bind
      (spares_aside (spares_resolveMany spare provider key.capability count))
      fun (services, errors) => ?_
    refine spares_act_bind (spares_letAllGo spare services) fun _ => ?_
    exact spares_act_bind (spares_modify fun _ => rfl) fun _ => spares_try_pure _
  | fakeClock name target =>
    refine spares_try_bind (spares_resolveContent spare name _) fun s => ?_
    split
    · exact spares_act_bind spares_get fun _ =>
        spares_act_bind (spares_clockEntry _ _ _) fun _ =>
          spares_act_bind (spares_nameClock _ _) fun _ => spares_try_pure _
    · exact spares_try_pure _
  | clock name target origin =>
    refine spares_try_bind (spares_resolveContent spare name _) fun s => ?_
    split
    · exact spares_act_bind spares_get fun _ =>
        spares_act_bind (spares_nameClock _ _) fun _ => spares_try_pure _
    · exact spares_try_pure _
  | log name target origin =>
    refine spares_try_bind (spares_resolveContent spare name _) fun s => ?_
    refine spares_act_bind (spares_memoryBehind spare name) fun memory => ?_
    split
    · exact spares_act_bind spares_get fun _ =>
        spares_act_bind (spares_nameLog _ _) fun _ => spares_try_pure _
    · exact spares_try_pure _
  | lifetime name target =>
    refine spares_try_bind (spares_resolveContent spare name _) fun s => ?_
    split
    · exact spares_act_bind (spares_nameLifetime _ _) fun _ => spares_try_pure _
    · exact spares_try_pure _

theorem spares_handle (c : HandleCommand) : home.Spares c.perform.run := by
  cases c with
  | «show» name =>
    exact spares_try_bind (spares_named _ _ _) fun _ =>
      spares_act_bind spares_get fun _ => spares_try_pure _
  | same left right =>
    refine spares_act_bind spares_get fun _ => ?_
    refine spares_act_bind spares_get fun _ => ?_
    split
    · exact spares_try_pure _
    · exact spares_throw _
  | drop name =>
    exact spares_try_bind (spares_named _ _ _) fun _ =>
      spares_act_bind (spares_modify fun _ => rfl) fun _ => spares_try_pure _

/-! ## All commands -/

theorem spares_perform (spare : cb.Spare home) (c : Command) : home.Spares (c.perform cb).run := by
  cases c with
  | clock c => exact spares_clock spare c
  | future c => exact spares_future c
  | log c => exact spares_log c
  | adapter c => exact spares_adapter spare c
  | registry c => exact spares_registry spare c
  | builder c => exact spares_builder spare c
  | host c => exact spares_host spare c
  | provider c => exact spares_provider spare c
  | handle c => exact spares_handle c
  | lifetime c => exact spares_lifetime c
  | onWake waker run =>
    exact spares_act_bind (spares_modify fun _ => rfl) fun _ => spares_try_pure _
  | note v => exact spares_act_bind (spares_note _) fun _ => spares_try_pure _
  | spawn delay run => exact spares_act_bind (spares_newTask _) fun _ => spares_try_pure _
  | routine c => exact spares_throw _
  | blocking c => exact spares_throw _
  | malformed message => exact spares_throw _

theorem spares_settle (spare : cb.Spare home) (c : Command) : home.Spares (c.settle cb) :=
  home.sparing.bind (spares_perform spare c) fun _ =>
    home.sparing.bind (spares_collect spare) fun _ => home.sparing.pure _

/-- However deep callbacks lead into one another, all that they come to only uses the lifetime and the
provider of a host without a name. -/
theorem spare_callbacks (home : Home) (depth : Nat) : (callbacks depth).Spare home := by
  induction depth with
  | zero => exact ⟨fun _ => home.sparing.pure _, fun _ _ => home.sparing.pure _⟩
  | succ depth ih => exact ⟨spares_settle ih, spares_resolve ih⟩

end Home

end HostBench.Scenario
