/-
  What a built host has on offer, and how much of it a disposal takes back.

  Whoever configures the services of a builder goes about a registry: it looks at it, makes offers
  and may go on after a refusal, or puts another registry in its place (`Enrolment`). What has been
  registered in the end are the offers that stand, each counting if it was the first of its
  capability (`registered_eq`). The services of the host itself come on top of them
  (`exists_stock`), and nothing that is done with the host later adds to its registry or takes
  anything away, up to its release (`Estate.Run.stocked`).
-/
import HostBench.Proofs.Building.Histories
import HostBench.Proofs.Disposal.Eras
import HostBench.Proofs.Service.Offers
import HostBench.Proofs.Service.Overtaken

namespace HostBench

variable {E V F H W σ ρ : Type}

/-! ## Going about a registry -/

/-- How the services of a builder are configured. What is done around the registry may be of any
kind (`act`). Another registry may come in the place of the one that is there, and that has been
made by offers, too. -/
inductive Enrolment (E V F : Type) where
  | done (result : Except RegistrationError Unit)
  | act (change : E → E) (next : E → Enrolment E V F)
  | look (next : Registry V F → Enrolment E V F)
  | register (key : Capability) (e : Entry V F)
      (next : Except RegistrationError Unit → Enrolment E V F)
  | replace (offers : List (Capability × Entry V F)) (next : Enrolment E V F)

namespace Enrolment

/-- Goes about a registry. -/
def run : Enrolment E V F → Registry V F → StateM E (Registry V F × Except RegistrationError Unit)
  | .done result, r => fun env => ((r, result), env)
  | .act change next, r => fun env => (next (change env)).run r (change env)
  | .look next, r => fun env => (next r).run r env
  | .register key e next, r => fun env =>
    (next ((r.register key e).map fun _ => ())).run (r.offer (key, e)) env
  | .replace offers next, _ => fun env => next.run (.enrol offers) env

/-- The offers that stand in the end, after others that were made before, accepted or refused. -/
def offers : Enrolment E V F → List (Capability × Entry V F) → E →
    List (Capability × Entry V F) × E
  | .done _, before, env => (before, env)
  | .act change next, before, env => (next (change env)).offers before (change env)
  | .look next, before, env => (next (.enrol before)).offers before env
  | .register key e next, before, env =>
    (next (((Registry.enrol before).register key e).map fun _ => ())).offers
      (before ++ [(key, e)]) env
  | .replace offers next, _, env => next.offers offers env

/-- What is registered are the offers that stand. -/
theorem run_enrol (p : Enrolment E V F) (before : List (Capability × Entry V F)) (env : E) :
    (p.run (.enrol before) env).1.1 = .enrol (p.offers before env).1 ∧
      (p.run (.enrol before) env).2 = (p.offers before env).2 := by
  induction p generalizing before env with
  | done result => exact ⟨rfl, rfl⟩
  | act change next ih => exact ih (change env) before (change env)
  | look next ih => exact ih (.enrol before) before env
  | register key e next ih =>
    rw [run, offers, ← Registry.enrol_concat]
    exact ih _ (before ++ [(key, e)]) env
  | replace offers next ih => exact ih offers env

end Enrolment

/-- A call of a builder: services are configured, or something is done that leaves the registry as
it is. -/
inductive Order (E V F H : Type) where
  | enrol (p : Enrolment E V F)
  | other (call : BuilderCall E V F H) (leaves : ∀ r env, (call.outcome r env).1.1 = r)

namespace Order

/-- The call of the builder. -/
def call : Order E V F H → BuilderCall E V F H
  | .enrol p => .services p.run
  | .other call _ => call

/-- The offers that stand after an order. -/
def offers : Order E V F H → List (Capability × Entry V F) → E →
    List (Capability × Entry V F) × E
  | .enrol p, before, env => p.offers before env
  | .other call _, before, env => (before, (call.outcome (.enrol before) env).2)

/-- The offers that stand after orders, one after the other. -/
def offered : List (Order E V F H) → List (Capability × Entry V F) → E →
    List (Capability × Entry V F)
  | [], before, _ => before
  | o :: rest, before, env => offered rest (o.offers before env).1 (o.offers before env).2

theorem outcome_enrol (o : Order E V F H) (before : List (Capability × Entry V F)) (env : E) :
    (o.call.outcome (.enrol before) env).1.1 = .enrol (o.offers before env).1 ∧
      (o.call.outcome (.enrol before) env).2 = (o.offers before env).2 := by
  cases o with
  | other call leaves => exact ⟨leaves _ env, rfl⟩
  | enrol p =>
    obtain ⟨left, around⟩ := p.run_enrol before env
    have outcome : ((Order.enrol p : Order E V F H).call.outcome (.enrol before) env).1.1 =
          (p.run (.enrol before) env).1.1 ∧
        ((Order.enrol p : Order E V F H).call.outcome (.enrol before) env).2 =
          (p.run (.enrol before) env).2 := by
      cases ran : p.run (.enrol before) env with
      | mk answer env' =>
        obtain ⟨r, result⟩ := answer
        cases result <;> simp [call, ran, bind, StateT.bind, pure_apply]
    exact ⟨outcome.1.trans left, outcome.2.trans around⟩

theorem outcomes_enrol (orders : List (Order E V F H)) (before : List (Capability × Entry V F))
    (env : E) : (BuilderCall.outcomes (orders.map call) (.enrol before) env).1.1 =
      .enrol (offered orders before env) := by
  induction orders generalizing before env with
  | nil => rfl
  | cons o rest ih =>
    obtain ⟨left, around⟩ := o.outcome_enrol before env
    rw [List.map_cons, Builder.outcomes_cons, left, around, ih]
    rfl

/-- What has been registered are the offers that stand. -/
theorem registered_eq (orders : List (Order E V F H)) (env : E) :
    BuilderCall.registered (orders.map call) env = .enrol (offered orders [] env) :=
  outcomes_enrol orders [] env

end Order

/-! ## The services of a built host -/

namespace Builder

open BuilderCall

/-- What is listed of a host: the first offer of each capability and the services that every host
has, each once and with its lifetime, by name. -/
structure Stock (offers : List (Capability × Entry V F)) (own : List Capability)
    (listed : List (String × ServiceLifetime)) : Prop where
  sorted : listed.Pairwise fun a b => a.1 < b.1
  exactly : ∀ name lifetime, (name, lifetime) ∈ listed ↔
    (∃ e, (⟨name⟩ : Capability).lookup offers = some e ∧ e.lifetime = lifetime) ∨
      (⟨name⟩ ∈ own ∧ lifetime = .fixed)

/-- Services that are registered under capabilities that are free. -/
theorem stock_of_free {offers : List (Capability × Entry V F)} {services : List (Capability × V)}
    (nodup : (services.map Prod.fst).Nodup)
    (free : ∀ key ∈ services.map Prod.fst, (Registry.enrol offers).contains key = false)
    {r : Registry V F} (built : r = ⟨(Registry.enrol offers).entries ++
      services.map fun x => (x.1, .fixed x.2)⟩) :
    r.Distinct ∧ Stock offers (services.map Prod.fst) r.types := by
  subst built
  have keys : (services.map fun x => (x.1, (.fixed x.2 : Entry V F))).map Prod.fst =
      services.map Prod.fst := by
    rw [List.map_map]
    rfl
  have distinct : Registry.Distinct (⟨(Registry.enrol offers).entries ++
      services.map fun x => (x.1, .fixed x.2)⟩ : Registry V F) := by
    rw [Registry.Distinct, List.map_append, keys]
    refine (Registry.distinct_enrol offers).append nodup fun key registered own => ?_
    have taken := Registry.contains_iff.mpr registered
    rw [free key own] at taken
    cases taken
  refine ⟨distinct, Registry.sorted_types distinct, fun name lifetime => ?_⟩
  rw [Registry.mem_types_iff distinct, Registry.find?, Capability.lookup_append, ← Registry.find?,
    Registry.find?_enrol]
  have own : ∀ e, (⟨name⟩ : Capability).lookup
      (services.map fun x => (x.1, (.fixed x.2 : Entry V F))) = some e ↔
        ∃ v, (⟨name⟩, v) ∈ services ∧ e = .fixed v := by
    intro e
    rw [Capability.lookup_eq_some_iff (by rwa [keys]), List.mem_map]
    constructor
    · rintro ⟨x, listed, equal⟩
      obtain ⟨same, rfl⟩ := Prod.mk.inj equal
      exact ⟨x.2, by rwa [← same], rfl⟩
    · rintro ⟨v, listed, rfl⟩
      exact ⟨_, listed, rfl⟩
  cases found : (⟨name⟩ : Capability).lookup offers with
  | some e =>
    -- An offer stands in the way of a service of the host, so there is none.
    have none_own : (⟨name⟩ : Capability) ∉ services.map Prod.fst := by
      intro mine
      have absent := free _ mine
      rw [Registry.contains, Registry.find?_enrol, found] at absent
      cases absent
    simp [none_own]
  | none =>
    simp only [Option.none_or, own, reduceCtorEq, false_and, exists_false, false_or, List.mem_map]
    constructor
    · rintro ⟨e, ⟨v, listed, rfl⟩, rfl⟩
      exact ⟨⟨_, listed, rfl⟩, rfl⟩
    · rintro ⟨⟨x, listed, same⟩, rfl⟩
      exact ⟨.fixed x.2, ⟨x.2, by rwa [← same], rfl⟩, rfl⟩

theorem lifetime_of_buildAfter {clock : Nat} {calls : List (BuilderCall E V F H)} {mint : BuiltIn → V}
    {log lifetime : Nat} {env : E} {p : Blueprint V F H W}
    (built : buildAfter clock calls mint log lifetime env = .ok p) :
    p.lifetime = ⟨.running, calls.filterMap hook?, []⟩ := by
  rw [blueprint_of_buildAfter built]

/-- What a host is built with is what the offers and its own services come to. -/
theorem exists_stock {clock : Nat} {orders : List (Order E V F H)} {mint : BuiltIn → V}
    {log lifetime : Nat} {env : E} {p : Blueprint V F H W}
    (built : buildAfter clock (orders.map Order.call) mint log lifetime env = .ok p) :
    p.registry.Distinct ∧ Stock (Order.offered orders [] env)
      (installed (lastClock clock (orders.map Order.call)) (lastEventLog (orders.map Order.call)))
      p.registry.types := by
  obtain ⟨none_failed, valid, free⟩ := free_of_buildAfter built
  obtain ⟨services, keys, result⟩ :=
    buildAfter_of_free (W := W) none_failed valid free mint log lifetime
  rw [result] at built
  rw [Order.registered_eq] at free
  rw [← keys]
  refine stock_of_free (keys ▸ nodup_installed _ _) (by rwa [keys]) ?_
  rw [← Except.ok.inj built, Order.registered_eq]

end Builder

/-! ## What is done with the host later -/

namespace Provider

variable {r : Registry V F} {p p' : Provider V F}

theorem Of.keep (of : p.Of r) {key : Capability} {v kept : V}
    (done : p.keep key v = .ok (p', kept)) : p'.Of r := by
  rcases of with gone | ⟨known, rfl⟩
  · exact .inl ((keep_same done).1.trans gone)
  · cases found : key.lookup known with
    | some old =>
      simp only [Provider.keep, holding, found] at done
      cases done
      exact .inr ⟨known, rfl⟩
    | none =>
      simp only [Provider.keep, holding, found] at done
      cases done
      exact .inr ⟨_, rfl⟩

theorem Of.uses (of : p.Of r) (uses : p.Uses p') : p'.Of r := by
  induction uses with
  | refl => exact of
  | tail _ last ih =>
    cases last with
    | keep _ _ done => exact ih.keep done

/-- As long as the services are there, the provider shows those of the registry. -/
theorem Of.shows (of : p.Of r) (live : p.isReleased = false) :
    p.types = .ok r.types ∧ ∀ key, p.contains key = r.contains key := by
  rcases of with gone | ⟨known, rfl⟩
  · rw [live] at gone
    cases gone
  · exact ⟨rfl, fun _ => rfl⟩

end Provider

/-- A host is in an era, with a provider of its registry. -/
def HostStage.Furnished (stage : HostStage σ H ρ V F W) (lifetime provider : Nat) (r : Registry V F)
    (era : Era) (s : σ) : Prop :=
  stage.In lifetime provider r.size era s ∧ ((stage.provider provider).get s).Of r

namespace HostStage.Guarded

variable {stage : HostStage σ H ρ V F W} {lifetime provider : Nat}

theorem respects_of (guarded : stage.Guarded lifetime provider) (r : Registry V F) (era : Era) :
    stage.Respects lifetime provider (stage.Furnished lifetime provider r era) := by
  have used : ∀ {s s'}, stage.Uses lifetime provider s s' → stage.Furnished lifetime provider r era s →
      stage.Furnished lifetime provider r era s' :=
    fun uses stands => ⟨stands.1.uses uses, stands.2.uses uses.provider⟩
  exact {
    timer := fun t s stands => ⟨guarded.in_timer stands.1 t, by
      rw [guarded.provider_timer]
      exact stands.2⟩
    report := fun e s => used (guarded.report e s)
    poll := fun r s => used (guarded.poll r s)
    abandon := fun r s => used (guarded.abandon r s)
    wake := fun w s => used (guarded.wake w s)
    discard := fun s => used (guarded.discard s)
    register := fun s hook l stands accepted =>
      ⟨(guarded.respects r.size era).register s hook l stands.1 accepted, by
        rw [guarded.provider_lifetime]
        exact stands.2⟩
    keep := fun s key v p kept stands done =>
      ⟨(guarded.respects r.size era).keep s key v p kept stands.1 done, by
        rw [guarded.provider_set]
        exact stands.2.keep done⟩ }

/-- A host that others only use keeps its registry from era to era. -/
theorem unfolds_of (guarded : stage.Guarded lifetime provider) (r : Registry V F) :
    stage.Unfolds lifetime provider (stage.Minds lifetime provider)
      (stage.Furnished lifetime provider r) r.size := by
  have base := guarded.unfolds r.size
  have lasting : ∀ l s, ((stage.provider provider).get s).Of r →
      ((stage.provider provider).get ((stage.lifetime lifetime).set l s)).Of r := by
    intro l s of
    rwa [guarded.provider_lifetime]
  exact {
    respects := guarded.respects_of r
    around := fun m minds era s stands =>
      ⟨stands.1.uses (minds s), stands.2.uses (minds s).provider⟩
    begins := fun s stands => ⟨base.begins s stands.1, lasting _ s stands.2⟩
    begun := fun s stands =>
      ⟨⟨(base.begun s stands.1).1, lasting _ s stands.2⟩, (base.begun s stands.1).2⟩
    stops := fun s stands => ⟨base.stops s (stands.imp And.left And.left),
      lasting _ s (stands.elim And.right And.right)⟩
    releases := fun s stands => ⟨(base.releases s stands.1).1, (base.releases s stands.1).2, by
      rw [guarded.provider_set]
      exact .inl rfl⟩ }

end HostStage.Guarded

namespace Estate

/-- How it stands with the services of a host between two operations, of which so many are listed. -/
structure Stocked (stage : HostStage σ H ρ V F W) (listed : List (String × ServiceLifetime))
    (e : Estate σ) : Prop where
  /-- The services are there until a disposal returns or the host is dropped. -/
  live_iff : ((stage.provider e.host.provider).get e.state).isReleased = false ↔
    e.dropped = false ∧ e.reports = []
  /-- Up to that, the list is what the provider shows. -/
  types : ((stage.provider e.host.provider).get e.state).isReleased = false →
    ((stage.provider e.host.provider).get e.state).types = .ok listed
  contains : ((stage.provider e.host.provider).get e.state).isReleased = false → ∀ key,
    ((stage.provider e.host.provider).get e.state).contains key = true ↔
      key.typeName ∈ listed.map Prod.fst
  /-- Every disposal that has returned reports that all of them were released. -/
  reports : ∀ report ∈ e.reports, report.released = listed.length

variable [BEq W] {stage : HostStage σ H ρ V F W} {lifetime provider : Nat}

/-- While a host is not dropped, what its disposals report to have released are all of its
services. -/
theorem Agrees.counted {C : Era → σ → Prop} {n : Nat} {e : Estate σ} (agrees : e.Agrees C n)
    (kept : e.dropped = false) : ∀ report ∈ e.reports, report.released = n := by
  cases agrees with
  | opened _ _ _ cut _ =>
    rw [cut]
    exact fun _ returned => absurd returned List.not_mem_nil
  | closed _ _ _ counted _ same _ =>
    intro report returned
    rw [same report returned, counted]
  | gone dropped _ =>
    rw [kept] at dropped
    cases dropped

/-- A drop does not change what was reported before it. -/
theorem Run.counted {around : StateM σ Unit → Prop} {C : Era → σ → Prop} {n : Nat} {e e' : Estate σ}
    (unfolds : stage.Unfolds lifetime provider around C n) (run : Run stage around e e')
    (stands : e.Stands C lifetime provider n) (counted : ∀ report ∈ e.reports, report.released = n) :
    ∀ report ∈ e'.reports, report.released = n := by
  induction run with
  | nothing e => exact counted
  | followed first _ ih ih' => exact ih' (first.stands unfolds stands) (ih stands counted)
  | acted e _ => exact counted
  | registered e _ => exact counted
  | resolved e makes tells key ih ih' =>
    rw [stands.provider]
    refine (keeps_resolve (P := fun e : Estate σ => e.Stands C lifetime provider n ∧
      ∀ report ∈ e.reports, report.released = n) ?_ ?_ ?_ key e ⟨stands, counted⟩).2
    · exact fun f e before =>
        ⟨(makes f e).stands unfolds before.1, ih f e before.1 before.2⟩
    · exact fun key lifetime e before =>
        ⟨(tells key lifetime e).stands unfolds before.1, ih' key lifetime e before.1 before.2⟩
    · exact fun e key v p kept before done => ⟨before.1.mono fun era holds =>
        (unfolds.respects era).keep e.state key v p kept holds done, before.2⟩
  | disposed e kept allowed => exact (stands.attempt unfolds kept allowed).agrees.counted kept
  | dropped e _ => exact counted

/-- Whatever is done with a host from its build on, its registry stays as it is up to its release. -/
theorem Run.stocked (guarded : stage.Guarded lifetime provider) {r : Registry V F}
    (distinct : r.Distinct) {settings : Settings} {s : σ} {e : Estate σ}
    (running : ((stage.lifetime lifetime).get s).phase = .running)
    (offers : (stage.provider provider).get s = .ofRegistry r)
    (run : Run stage (stage.Minds lifetime provider) (built settings provider lifetime s) e) :
    e.Stocked stage r.types := by
  have begins : stage.In lifetime provider r.size .running s :=
    ⟨running, by rw [offers]; rfl, by rw [offers]; rfl⟩
  have stands := run.stands (guarded.unfolds r.size) ⟨rfl, rfl, .opened rfl rfl rfl rfl begins⟩
  have holds := run.stands (guarded.unfolds_of r)
    ⟨rfl, rfl, .opened rfl rfl rfl rfl ⟨begins, .inr ⟨[], offers⟩⟩⟩
  obtain ⟨era, -, of⟩ := holds.agrees.exists_era
  rw [← stands.provider] at of
  refine ⟨?_, fun live => (of.shows live).1, fun live key => ?_, fun report returned => ?_⟩
  · rw [← stands.open_iff]
    refine ⟨fun live => ?_, Open.live⟩
    rcases stands.cases with opened | ⟨report, closed⟩ | gone
    · exact opened
    · rw [closed.released] at live
      cases live
    · rw [gone.released] at live
      cases live
  · rw [(of.shows live).2, ← Registry.mem_names_iff distinct]
  · rw [Registry.length_types]
    exact run.counted (guarded.unfolds r.size) ⟨rfl, rfl, .opened rfl rfl rfl rfl begins⟩
      (fun _ returned => absurd returned List.not_mem_nil) report returned

/-- **The inventory of a host.** Whatever was ordered of its builder, and whatever is done with it
from then on: a host that was built lists the first offer of each capability and the services that
every host has, each of them once. It lists them up to its release, and that is a release of as many
services. -/
theorem lists_first_offers_until_release (guarded : stage.Guarded lifetime provider) {clock : Nat}
    {orders : List (Order E V F H)} {mint : BuiltIn → V} {log : Nat} {env : E}
    {p : Blueprint V F H W}
    (built : Builder.buildAfter clock (orders.map Order.call) mint log lifetime env = .ok p) {s : σ}
    (begun : (stage.lifetime lifetime).get s = p.lifetime)
    (offers : (stage.provider provider).get s = .ofRegistry p.registry) :
    ∃ listed, Builder.Stock (Order.offered orders [] env)
        (Builder.installed (BuilderCall.lastClock clock (orders.map Order.call))
          (BuilderCall.lastEventLog (orders.map Order.call))) listed ∧
      ∀ e, Run stage (stage.Minds lifetime provider) (.built p.settings provider lifetime s) e →
        e.Stocked stage listed := by
  obtain ⟨distinct, stock⟩ := Builder.exists_stock built
  have running : ((stage.lifetime lifetime).get s).phase = .running := by
    rw [begun, Builder.lifetime_of_buildAfter built]
  exact ⟨p.registry.types, stock, fun e run => run.stocked guarded distinct running offers⟩

end Estate

/-! ## A host with one offer and one that came too late -/

namespace Rehearsal

/-- The greeting is offered twice, and the clock that moves by hand is chosen last. -/
def orders : List (Order Unit String Unit Job) :=
  [.enrol (.register ⟨"greeting"⟩ (.fixed "hello") fun _ =>
      .register ⟨"greeting"⟩ (.transient ()) fun _ => .done (.ok ())),
    .other (.clock .system "sundial") fun _ _ => rfl, .other (.fakeClock 1) fun _ _ => rfl]

/-- What is built: the greeting, and all services that a host can have of its own. -/
def hall : Blueprint String Unit Job Unit where
  settings := .default
  registry := ⟨[(⟨"greeting"⟩, .fixed "hello"), (⟨"exec_testhost::clock::FakeClock"⟩, .fixed "own"),
    (⟨"exec_testhost::event_log::InMemoryEventLog"⟩, .fixed "own"),
    (⟨"dyn exec_testhost::clock::Clock"⟩, .fixed "own"),
    (⟨"dyn exec_testhost::event_log::EventLog"⟩, .fixed "own"),
    (⟨"exec_testhost::lifetime::HostLifetime"⟩, .fixed "own"),
    (⟨"exec_testhost::host::HostEnvironment"⟩, .fixed "own")]⟩
  lifetime := ⟨.running, [], []⟩
  eventLog := some (.empty (.fake 1) none)

/-- The host in its surroundings. -/
def opened : Scene := ⟨.start, [], hall.lifetime, .ofRegistry hall.registry⟩

theorem hall_lists_first_offers :
    Builder.buildAfter 0 (orders.map Order.call) (fun _ => "own") 0 0 () = .ok hall ∧
    ∃ listed, Builder.Stock [(⟨"greeting"⟩, .fixed "hello"), (⟨"greeting"⟩, .transient ())]
        (Builder.installed (.fake 1) (none : Option String)) listed ∧ listed.length = 7 ∧
      ∀ e, Estate.Run stage (stage.Minds 0 0) (.built .default 0 0 opened) e →
        e.Stocked stage listed := by
  have built : Builder.buildAfter 0 (orders.map Order.call) (fun _ => "own") 0 0 () = .ok hall := rfl
  obtain ⟨listed, stock, lasts⟩ :=
    Estate.lists_first_offers_until_release (sound host).guarded built (s := opened) rfl rfl
  refine ⟨built, listed, stock, ?_, lasts⟩
  have disposed := lasts ((Estate.built .default 0 0 opened).attempt stage [])
    (.disposed _ rfl fun m hm => absurd hm List.not_mem_nil)
  exact (disposed.reports ⟨[], 7⟩ (by decide +kernel)).symm

end Rehearsal

end HostBench
