/-
  The order of resolutions. The factories follow a plan, none fails, all that they need is registered,
  and each makes its service of what it has got and of nothing else (`Plan.Settled`).

  What a resolution creates depends on what was resolved before: a shared singleton is made for the
  first one that needs it, at whatever depth. But each resolution adds to a tally that does not
  (`Plan.Supplied`). What is kept in the end are the singletons to which the needs lead; each service
  is the one of its capability (`Plan.service`); and a factory is called so often for each request, and
  so often for each singleton that is kept (`Plan.perRequest`, `Plan.perCall`). From an empty provider
  all this is the same for every order of the requests (`Plan.any_order`).
-/
import HostBench.Proofs.Service.Plan
import Mathlib.Algebra.Ring.Nat

namespace HostBench

variable {E V F : Type}

/-- A factory is called for the capability. -/
def Mark.isCall (key : Capability) : Mark V F → Bool
  | .called _ k => k == key
  | _ => false

/-- How often the factory of a capability is called according to a log. -/
def calls (key : Capability) (log : List (Mark V F)) : Nat := log.countP (Mark.isCall key)

theorem calls_append (key : Capability) (l m : List (Mark V F)) :
    calls key (l ++ m) = calls key l + calls key m := List.countP_append

theorem calls_settled (k : Capability) (id : Nat) (key : Capability) (cached : Bool)
    (answer : Except ResolveError V) :
    calls k ([.asked id key cached, .answered id key answer] : List (Mark V F)) = 0 := by
  simp [calls, Mark.isCall]

theorem calls_ending (k : Capability) (id : Nat) (key : Capability) (lifetime : ServiceLifetime)
    (result answer : Except ResolveError V) :
    calls k (Mark.ending id key lifetime result answer : List (Mark V F)) = 0 := by
  cases result <;> simp [calls, Mark.ending, Mark.isCall]

namespace Plan

variable {p : Plan E V F} {r : Registry V F} {compute : Capability → F → List V → V}
  {key k : Capability} {f : F}

/-- All that is needed is registered, and no factory fails: it computes its service of what it has
got. -/
structure Settled (p : Plan E V F) (r : Registry V F) (compute : Capability → F → List V → V) :
    Prop where
  complete : ∀ key k, p.Needs r key k → r.contains k = true
  finish_eq : ∀ key f, r.factory? key = some f →
    ∀ got around, (p.finish key f got around).1 = .ok (compute key f got)

/-! ## The service of a capability -/

/-- The service that a capability always has. -/
def service (p : Plan E V F) (r : Registry V F) (compute : Capability → F → List V → V)
    (key : Capability) : Option V :=
  match r.find? key with
  | none => none
  | some (.fixed v) => some v
  | some (.singleton f) | some (.transient f) =>
    some (compute key f ((p.needs key f).attach.filterMap fun k => p.service r compute k.1))
termination_by p.rank key
decreasing_by all_goals exact p.lower key f k.1 k.2

/-- What a resolution of the capability always answers. -/
def answer (p : Plan E V F) (r : Registry V F) (compute : Capability → F → List V → V)
    (key : Capability) : Except ResolveError V :=
  match p.service r compute key with
  | none => .error (.notRegistered key.typeName)
  | some v => .ok v

theorem service_of_unregistered (unknown : r.find? key = none) : p.service r compute key = none := by
  rw [service, unknown]

theorem service_of_fixed {v : V} (registered : r.find? key = some (.fixed v)) :
    p.service r compute key = some v := by
  rw [service, registered]

theorem service_of_factory (factory : r.factory? key = some f) :
    p.service r compute key =
      some (compute key f ((p.needs key f).filterMap (p.service r compute))) := by
  have attached : ((p.needs key f).attach.filterMap fun k => p.service r compute k.1) =
      (p.needs key f).filterMap (p.service r compute) := by
    conv => rhs; rw [← List.attach_map_subtype_val (p.needs key f), List.filterMap_map]
    rfl
  rw [service]
  cases registered : r.find? key with
  | none => simp [Registry.factory?, registered] at factory
  | some e =>
    rw [Registry.factory?_of_find? registered] at factory
    cases e with
    | fixed v => cases factory
    | _ =>
      cases factory
      rw [← attached]

theorem service_of_contains (p : Plan E V F) (compute : Capability → F → List V → V)
    (registered : r.contains key = true) : ∃ v, p.service r compute key = some v := by
  cases known : r.find? key with
  | none => simp [Registry.contains, known] at registered
  | some e =>
    cases e with
    | fixed v => exact ⟨v, service_of_fixed known⟩
    | _ => exact ⟨_, service_of_factory (Registry.factory?_of_find? known)⟩

/-! ## How often factories are called -/

/-- How often the factory of `k` is called for one resolution of a capability, apart from what the
singletons need that are made then. -/
def perRequest (p : Plan E V F) (r : Registry V F) (k key : Capability) : Nat :=
  match r.find? key with
  | some (.transient f) =>
    (if key = k then 1 else 0) + ((p.needs key f).attach.map fun d => p.perRequest r k d.1).sum
  | _ => 0
termination_by p.rank key
decreasing_by exact p.lower key f d.1 d.2

/-- How often the factory of `k` is called for one call of the factory of a capability, apart from
what the singletons need that are made then. -/
def perCall (p : Plan E V F) (r : Registry V F) (k key : Capability) : Nat :=
  (if key = k then 1 else 0) +
    ((r.factory? key).map fun f => ((p.needs key f).map (p.perRequest r k)).sum).getD 0

theorem perRequest_of_transient (registered : r.find? key = some (.transient f)) :
    p.perRequest r k key = p.perCall r k key := by
  rw [perRequest, perCall]
  simp [Registry.factory?, registered, Entry.factory?]

theorem perRequest_of_ne_transient (other : ∀ f, r.find? key ≠ some (.transient f)) :
    p.perRequest r k key = 0 := by
  rw [perRequest]
  split
  · rename_i f registered
    exact absurd registered (other f)
  · rfl

/-! ## Where needs lead -/

/-- The needs lead from one capability to the other. -/
abbrev Reaches (p : Plan E V F) (r : Registry V F) : Capability → Capability → Prop :=
  Relation.ReflTransGen (p.Needs r)

theorem rank_le_of_reaches (leads : p.Reaches r key k) : p.rank k ≤ p.rank key := by
  induction leads with
  | refl => exact Nat.le_refl _
  | tail _ needs ih =>
    obtain ⟨f, -, needed⟩ := needs
    exact Nat.le_trans (Nat.le_of_lt (p.lower _ f _ needed)) ih

theorem reaches_iff (factory : r.factory? key = some f) :
    p.Reaches r key k ↔ key = k ∨ ∃ d ∈ p.needs key f, p.Reaches r d k := by
  constructor
  · intro leads
    rcases leads.cases_head with same | ⟨d, ⟨f', factory', needed⟩, further⟩
    · exact .inl same
    · obtain rfl : f = f' := Option.some.inj (factory.symm.trans factory')
      exact .inr ⟨d, needed, further⟩
  · rintro (rfl | ⟨d, needed, further⟩)
    · exact .refl
    · exact .head ⟨f, factory, needed⟩ further

theorem reaches_iff_of_no_factory (none_made : r.factory? key = none) :
    p.Reaches r key k ↔ key = k := by
  constructor
  · intro leads
    rcases leads.cases_head with same | ⟨d, ⟨f', factory', needed⟩, further⟩
    · exact same
    · simp [none_made] at factory'
  · rintro rfl
    exact .refl

/-! ## The tally of resolutions -/

/-- What a provider keeps after some resolutions: with a singleton all those to which its needs lead,
each with its own service. -/
structure Stock (p : Plan E V F) (r : Registry V F) (compute : Capability → F → List V → V)
    (kept : List (Capability × V)) : Prop where
  keepable : Keepable r kept
  saturated : ∀ key ∈ kept.map Prod.fst, ∀ k, p.Reaches r key k → r.isSingleton k = true →
    k ∈ kept.map Prod.fst
  service_eq : ∀ key v, (key, v) ∈ kept → p.service r compute key = some v

/-- What has changed after the resolutions of some capabilities. -/
structure Supplied (p : Plan E V F) (r : Registry V F) (compute : Capability → F → List V → V)
    (keys : List Capability) (kept : List (Capability × V)) (l : List (Mark V F))
    (kept' : List (Capability × V)) : Prop where
  stock : p.Stock r compute kept'
  mem_iff : ∀ k, k ∈ kept'.map Prod.fst ↔
    k ∈ kept.map Prod.fst ∨ r.isSingleton k = true ∧ ∃ key ∈ keys, p.Reaches r key k
  calls_eq : ∀ k, calls k l + ((kept.map Prod.fst).map (p.perCall r k)).sum =
    (keys.map (p.perRequest r k)).sum + ((kept'.map Prod.fst).map (p.perCall r k)).sum

namespace Supplied

variable {keys keys' : List Capability} {kept kept' kept'' : List (Capability × V)}
  {l m : List (Mark V F)}

theorem nothing (stock : p.Stock r compute kept) :
    p.Supplied r compute [] kept ([] : List (Mark V F)) kept where
  stock := stock
  mem_iff k := by simp
  calls_eq k := rfl

theorem append (first : p.Supplied r compute keys kept l kept')
    (second : p.Supplied r compute keys' kept' m kept'') :
    p.Supplied r compute (keys ++ keys') kept (l ++ m) kept'' where
  stock := second.stock
  mem_iff k := by
    rw [second.mem_iff, first.mem_iff]
    constructor
    · rintro ((known | ⟨single, key, among, leads⟩) | ⟨single, key, among, leads⟩)
      · exact .inl known
      · exact .inr ⟨single, key, List.mem_append_left _ among, leads⟩
      · exact .inr ⟨single, key, List.mem_append_right _ among, leads⟩
    · rintro (known | ⟨single, key, among, leads⟩)
      · exact .inl (.inl known)
      · rcases List.mem_append.mp among with among | among
        · exact .inl (.inr ⟨single, key, among, leads⟩)
        · exact .inr ⟨single, key, among, leads⟩
  calls_eq k := by
    have := first.calls_eq k
    have := second.calls_eq k
    rw [calls_append, List.map_append, List.sum_append]
    omega

/-- Nothing is made for a capability without a factory, or if its service is kept. -/
theorem idle (stock : p.Stock r compute kept) (uncalled : ∀ k, calls k l = 0)
    (settled : key ∈ kept.map Prod.fst ∨ r.factory? key = none) :
    p.Supplied r compute [key] kept l kept where
  stock := stock
  mem_iff k := by
    refine ⟨.inl, ?_⟩
    rintro (known | ⟨single, key', among, leads⟩)
    · exact known
    · rw [List.mem_singleton.mp among] at leads
      rcases settled with known | none_made
      · exact stock.saturated key known k leads single
      · rw [reaches_iff_of_no_factory none_made] at leads
        subst leads
        obtain ⟨f, registered⟩ := Registry.isSingleton_iff.mp single
        simp [Registry.factory?_of_find? registered, Entry.factory?] at none_made
  calls_eq k := by
    have unneeded : p.perRequest r k key = 0 := by
      refine perRequest_of_ne_transient fun f registered => ?_
      rcases settled with known | none_made
      · obtain ⟨g, single⟩ := Registry.isSingleton_iff.mp (stock.keepable.singleton key known)
        simp [registered] at single
      · simp [Registry.factory?_of_find? registered, Entry.factory?] at none_made
    simp [uncalled k, unneeded]

theorem calls_made (k : Capability) (id : Nat) (key : Capability) (cached : Bool)
    (lifetime : ServiceLifetime) (result answer : Except ResolveError V) :
    calls k ([.asked id key cached, .called id key] ++ l ++ Mark.ending id key lifetime result answer) =
      (if key = k then 1 else 0) + calls k l := by
  have own : calls k ([.asked id key cached, .called id key] : List (Mark V F)) =
      if key = k then 1 else 0 := by
    by_cases same : key = k <;> simp [calls, Mark.isCall, same]
  rw [calls_append, calls_append, calls_ending, own, Nat.add_zero]

/-- The factory of a transient service has got what it needs. -/
theorem transient (registered : r.find? key = some (.transient f))
    (inside : p.Supplied r compute (p.needs key f) kept l kept')
    (called : ∀ k, calls k m = (if key = k then 1 else 0) + calls k l) :
    p.Supplied r compute [key] kept m kept' where
  stock := inside.stock
  mem_iff k := by
    have factory : r.factory? key = some f := Registry.factory?_of_find? registered
    rw [inside.mem_iff]
    refine or_congr_right (and_congr_right fun single => ?_)
    have other : key ≠ k := by
      rintro rfl
      simp [Registry.isSingleton_of_find? registered, Entry.lifetime] at single
    simp [reaches_iff factory, other]
  calls_eq k := by
    have factory : r.factory? key = some f := Registry.factory?_of_find? registered
    have := inside.calls_eq k
    simp only [called, List.map_cons, List.map_nil, List.sum_cons, List.sum_nil,
      perRequest_of_transient registered, perCall, factory, Option.map_some, Option.getD_some]
    omega

/-- The factory of a singleton has got what it needs, and the singleton is kept. -/
theorem singleton (registered : r.find? key = some (.singleton f)) {v : V}
    (service_eq : p.service r compute key = some v) (fresh : key.lookup kept' = none)
    (inside : p.Supplied r compute (p.needs key f) kept l kept')
    (called : ∀ k, calls k m = (if key = k then 1 else 0) + calls k l) :
    p.Supplied r compute [key] kept m (kept' ++ [(key, v)]) := by
  have factory : r.factory? key = some f := Registry.factory?_of_find? registered
  have single : r.isSingleton key = true := Registry.isSingleton_iff.mpr ⟨f, registered⟩
  have mem_iff : ∀ k, k ∈ (kept' ++ [(key, v)]).map Prod.fst ↔
      k ∈ kept.map Prod.fst ∨ r.isSingleton k = true ∧ p.Reaches r key k := by
    intro k
    rw [List.map_append, List.mem_append, inside.mem_iff, reaches_iff factory, or_assoc]
    refine or_congr_right ?_
    constructor
    · rintro (⟨single, leads⟩ | same)
      · exact ⟨single, .inr leads⟩
      · rw [List.mem_singleton.mp same]
        exact ⟨single, .inl rfl⟩
    · rintro ⟨single, same | leads⟩
      · exact .inr (List.mem_singleton.mpr same.symm)
      · exact .inl ⟨single, leads⟩
  have made : successes r [.made 0 key (.ok v)] = [(key, v)] := by
    simp [successes, Mark.success?, single]
  exact {
    stock.keepable := made ▸ inside.stock.keepable.append fresh 0 (.ok v)
    stock.saturated := by
      intro key' among k leads single
      rw [List.map_append, List.mem_append] at among
      rcases among with among | same
      · rw [List.map_append]
        exact List.mem_append_left _ (inside.stock.saturated key' among k leads single)
      · rw [List.mem_singleton.mp same] at leads
        exact (mem_iff k).mpr (.inr ⟨single, leads⟩)
    stock.service_eq := by
      intro k u among
      rcases List.mem_append.mp among with among | same
      · exact inside.stock.service_eq k u among
      · cases List.mem_singleton.mp same
        exact service_eq
    mem_iff := by simpa using mem_iff
    calls_eq := by
      intro k
      have := inside.calls_eq k
      have unneeded : p.perRequest r k key = 0 :=
        perRequest_of_ne_transient (by simp [registered])
      simp only [called, List.map_append, List.sum_append, List.map_cons, List.map_nil, List.sum_cons,
        List.sum_nil, unneeded, perCall, factory, Option.map_some, Option.getD_some]
      omega }

end Supplied

/-! ## Resolving adds to the tally -/

/-- From one workshop to the next some capabilities have been resolved. -/
def Supplies (p : Plan E V F) (r : Registry V F) (compute : Capability → F → List V → V)
    (keys : List Capability) (kept : List (Capability × V)) (w w' : Workshop (Ledger E) V F) : Prop :=
  ∃ l kept', w'.log = w.log ++ l ∧ w'.provider = .holding r kept' ∧
    p.Supplied r compute keys kept l kept'

/-- What a factory resolves and computes, if all that it may resolve does as it should. -/
theorem supplies_gather (settled : p.Settled r compute) (factory : r.factory? key = some f)
    (inner : ∀ k, p.rank k < p.rank key → ∀ (w : Workshop (Ledger E) V F) kept,
      w.provider = .holding r kept → p.Stock r compute kept →
      (p.cookbook.get k w).1 = p.answer r compute k ∧
        p.Supplies r compute [k] kept w (p.cookbook.get k w).2)
    (ks : List Capability) (lower : ∀ k ∈ ks, p.rank k < p.rank key)
    (registered : ∀ k ∈ ks, r.contains k = true) (got : List V) (w : Workshop (Ledger E) V F)
    (kept : List (Capability × V)) (provider : w.provider = .holding r kept)
    (stock : p.Stock r compute kept) :
    ((p.gather key f ks lower got).run (fun k _ => p.cookbook.get k) w).1 =
        .ok (compute key f (got ++ ks.filterMap (p.service r compute))) ∧
      p.Supplies r compute ks kept w
        ((p.gather key f ks lower got).run (fun k _ => p.cookbook.get k) w).2 := by
  induction ks generalizing got w kept with
  | nil =>
    constructor
    · rw [List.filterMap_nil, List.append_nil]
      exact settled.finish_eq key f factory got w.around.around
    · exact ⟨[], kept, (List.append_nil _).symm, provider, .nothing stock⟩
  | cons k ks ih =>
    obtain ⟨v, service_eq⟩ := service_of_contains p compute
      (registered k List.mem_cons_self)
    obtain ⟨answered, l, kept', log_eq, provider', first⟩ :=
      inner k (lower k List.mem_cons_self) w kept provider stock
    have answer_eq : (p.cookbook.get k w).1 = .ok v := by rw [answered, answer, service_eq]
    have run_eq : (p.gather key f (k :: ks) lower got).run (fun k _ => p.cookbook.get k) w =
        (p.gather key f ks (fun k' h => lower k' (List.mem_cons_of_mem k h)) (got ++ [v])).run
          (fun k _ => p.cookbook.get k) (p.cookbook.get k w).2 := by
      simp only [gather, Recipe.run, answer_eq]
    obtain ⟨computed, m, kept'', log_eq', provider'', second⟩ :=
      ih (fun k' h => lower k' (List.mem_cons_of_mem k h))
        (fun k' h => registered k' (List.mem_cons_of_mem k h)) (got ++ [v]) _ kept' provider' first.stock
    rw [run_eq]
    refine ⟨?_, l ++ m, kept'', ?_, provider'', first.append second⟩
    · rw [computed, List.filterMap_cons, service_eq, List.append_assoc]
      rfl
    · rw [log_eq', log_eq, List.append_assoc]

/-- A factory has made the service of a capability for which nothing was kept. -/
theorem supplies_made {make : F → StateM (Workshop (Ledger E) V F) (Except ResolveError V)}
    {w w' : Workshop (Ledger E) V F} {kept : List (Capability × V)} {lifetime : ServiceLifetime} {v : V}
    (provider : w.provider = .holding r kept) (looked : w.provider.lookup key = .toMake lifetime f)
    (service_eq : p.service r compute key = some v)
    (made : make f (w.noting [.asked w.log.length key (w.provider.keeps key),
      .called w.log.length key]) = (.ok v, w'))
    (inside : p.Supplies r compute (p.needs key f) kept (w.noting
      [.asked w.log.length key (w.provider.keeps key), .called w.log.length key]) w') :
    (Workshop.resolve make key w).1 = p.answer r compute key ∧
      p.Supplies r compute [key] kept w (Workshop.resolve make key w).2 := by
  obtain ⟨l, kept', log_eq, provider', inside⟩ := inside
  have entry := looked
  rw [provider] at entry
  obtain ⟨fresh, entry⟩ := Provider.holding_of_toMake entry
  -- all that the factory has resolved has a lower rank
  have still : key.lookup kept' = none := by
    rw [Capability.lookup_eq_none_iff] at fresh ⊢
    intro known
    rcases (inside.mem_iff key).mp known with known | ⟨-, d, needed, leads⟩
    · exact fresh known
    · have lower := p.lower key f d needed
      have bound := rank_le_of_reaches leads
      omega
  have agree : lifetime = .transient ↔ r.isSingleton key = false := by
    rcases entry with ⟨registered, rfl⟩ | ⟨registered, rfl⟩ <;>
      simp [Registry.isSingleton_of_find? registered, Entry.lifetime]
  have accepted := Provider.accept_holding still w.log.length (.ok v) agree
  rw [Workshop.resolve_of_toMake looked made, provider', accepted]
  refine ⟨by rw [answer, service_eq]; rfl, [.asked w.log.length key (w.provider.keeps key),
    .called w.log.length key] ++ l ++ Mark.ending w.log.length key lifetime (.ok v) (.ok v), _, ?_, rfl,
    ?_⟩
  · show w'.log ++ _ = _
    rw [log_eq]
    simp only [Workshop.noting, List.append_assoc]
    rfl
  · rcases entry with ⟨registered, rfl⟩ | ⟨registered, rfl⟩
    · have single : successes r [.made w.log.length key (.ok v)] = [(key, v)] := by
        simp [successes, Mark.success?, Registry.isSingleton_of_find? registered, Entry.lifetime]
      rw [single]
      exact inside.singleton registered service_eq still fun k => Supplied.calls_made ..
    · have none : successes r [.made w.log.length key (.ok v)] = [] := by
        simp [successes, Mark.success?, Registry.isSingleton_of_find? registered, Entry.lifetime]
      rw [none, List.append_nil]
      exact inside.transient registered fun k => Supplied.calls_made ..

/-- Each resolution answers as always, and adds to the tally. -/
theorem supplies_get (settled : p.Settled r compute) (key : Capability) (w : Workshop (Ledger E) V F)
    (kept : List (Capability × V)) (provider : w.provider = .holding r kept)
    (stock : p.Stock r compute kept) :
    (p.cookbook.get key w).1 = p.answer r compute key ∧
      p.Supplies r compute [key] kept w (p.cookbook.get key w).2 := by
  rw [Cookbook.get]
  cases looked : w.provider.lookup key with
  | found v =>
    rw [Workshop.resolve_of_found looked]
    rw [provider] at looked
    rcases Provider.holding_of_found looked with known | ⟨-, registered⟩
    · have among := Capability.mem_of_lookup known
      refine ⟨by rw [answer, stock.service_eq key v among], _, kept, rfl, provider, ?_⟩
      exact .idle stock (fun k => calls_settled ..) (.inl (List.mem_map_of_mem among))
    · refine ⟨by rw [answer, service_of_fixed registered], _, kept, rfl, provider, ?_⟩
      exact .idle stock (fun k => calls_settled ..) (.inr (Registry.factory?_of_find? registered))
  | refused e =>
    rw [Workshop.resolve_of_refused looked]
    rw [provider] at looked
    obtain ⟨-, unknown, rfl⟩ := Provider.holding_of_refused looked
    refine ⟨by rw [answer, service_of_unregistered unknown], _, kept, rfl, provider, ?_⟩
    exact .idle stock (fun k => calls_settled ..) (.inr (by simp [Registry.factory?, unknown]))
  | toMake lifetime f =>
    have factory : r.factory? key = some f := by
      rw [provider] at looked
      rcases (Provider.holding_of_toMake looked).2 with ⟨registered, -⟩ | ⟨registered, -⟩ <;>
        exact Registry.factory?_of_find? registered
    obtain ⟨made, inside⟩ := supplies_gather settled factory
      (fun k lower w kept provider stock => supplies_get settled k w kept provider stock)
      (p.needs key f) (p.lower key f) (fun k hk => settled.complete key k ⟨f, factory, hk⟩) []
      (w.noting [.asked w.log.length key (w.provider.keeps key), .called w.log.length key]) kept
      provider stock
    exact supplies_made provider looked (service_of_factory factory) (Prod.ext made rfl) inside
termination_by p.rank key

/-- All resolutions of a list answer as always, and add to the tally. -/
theorem supplies_all (settled : p.Settled r compute) (keys : List Capability)
    (w : Workshop (Ledger E) V F) (kept : List (Capability × V))
    (provider : w.provider = .holding r kept) (stock : p.Stock r compute kept) :
    (keys.mapM p.cookbook.get w).1 = keys.map (p.answer r compute) ∧
      p.Supplies r compute keys kept w (keys.mapM p.cookbook.get w).2 := by
  induction keys generalizing w kept with
  | nil => exact ⟨rfl, [], kept, (List.append_nil _).symm, provider, .nothing stock⟩
  | cons key keys ih =>
    obtain ⟨answered, l, kept', log_eq, provider', first⟩ :=
      supplies_get settled key w kept provider stock
    obtain ⟨rest, m, kept'', log_eq', provider'', second⟩ := ih _ kept' provider' first.stock
    have run_eq : (key :: keys).mapM p.cookbook.get w =
        ((p.cookbook.get key w).1 :: (keys.mapM p.cookbook.get (p.cookbook.get key w).2).1,
          (keys.mapM p.cookbook.get (p.cookbook.get key w).2).2) := by
      rw [List.mapM_cons]
      rfl
    rw [run_eq]
    refine ⟨by rw [answered, rest]; rfl, l ++ m, kept'', ?_, provider'', first.append second⟩
    rw [log_eq', log_eq, List.append_assoc]

/-! ## Any order -/

/-- What is to be said of two runs that have resolved the same capabilities in their own orders. -/
structure SameSupply (r : Registry V F) (keys keys' : List Capability)
    (run run' : List (Except ResolveError V) × Workshop (Ledger E) V F) : Prop where
  /-- Whenever a capability is resolved, the answer is the same, and it is a service if the capability
  is registered. -/
  answers : ∃ answer : Capability → Except ResolveError V,
    (∀ key, r.contains key = true → ∃ v, answer key = .ok v) ∧
      run.1 = keys.map answer ∧ run'.1 = keys'.map answer
  /-- In the end the same singletons are kept, -/
  kept : ∃ kept kept', run.2.provider = .holding r kept ∧ run'.2.provider = .holding r kept' ∧
    kept.Perm kept'
  /-- and each factory has been called equally often. -/
  calls_eq : ∀ key, calls key run.2.log = calls key run'.2.log

theorem stock_nil : p.Stock r compute ([] : List (Capability × V)) where
  keepable := ⟨List.nodup_nil, by simp⟩
  saturated _ among := by simp at among
  service_eq _ _ among := by simp at among

theorem Stock.perm {kept kept' : List (Capability × V)} (stock : p.Stock r compute kept)
    (stock' : p.Stock r compute kept')
    (same : ∀ k, k ∈ kept.map Prod.fst ↔ k ∈ kept'.map Prod.fst) : kept.Perm kept' := by
  have mem_iff : ∀ {kept : List (Capability × V)}, p.Stock r compute kept → ∀ k v,
      (k, v) ∈ kept ↔ k ∈ kept.map Prod.fst ∧ p.service r compute k = some v := by
    intro kept stock k v
    constructor
    · exact fun among => ⟨List.mem_map_of_mem among, stock.service_eq k v among⟩
    · rintro ⟨known, service_eq⟩
      obtain ⟨⟨k', u⟩, among, rfl⟩ := List.mem_map.mp known
      obtain rfl : u = v := Option.some.inj ((stock.service_eq k' u among).symm.trans service_eq)
      exact among
  refine (List.perm_ext_iff_of_nodup stock.keepable.nodup.of_map stock'.keepable.nodup.of_map).mpr ?_
  rintro ⟨k, v⟩
  rw [mem_iff stock, mem_iff stock', same k]

/-- The order in which capabilities are resolved makes no difference. -/
theorem any_order (settled : p.Settled r compute) {keys keys' : List Capability}
    (perm : keys.Perm keys') (around around' : Ledger E) :
    SameSupply r keys keys' (keys.mapM p.cookbook.get (.ofRegistry r around))
      (keys'.mapM p.cookbook.get (.ofRegistry r around')) := by
  obtain ⟨answered, l, kept, log_eq, provider, supplied⟩ :=
    supplies_all settled keys (.ofRegistry r around) [] rfl stock_nil
  obtain ⟨answered', l', kept', log_eq', provider', supplied'⟩ :=
    supplies_all settled keys' (.ofRegistry r around') [] rfl stock_nil
  have same : ∀ k, k ∈ kept.map Prod.fst ↔ k ∈ kept'.map Prod.fst := by
    intro k
    rw [supplied.mem_iff, supplied'.mem_iff]
    simp only [perm.mem_iff]
  have kept_perm := supplied.stock.perm supplied'.stock same
  refine ⟨⟨p.answer r compute, ?_, answered, answered'⟩,
    ⟨kept, kept', provider, provider', kept_perm⟩, ?_⟩
  · intro key registered
    obtain ⟨v, service_eq⟩ := service_of_contains p compute registered
    exact ⟨v, by rw [answer, service_eq]⟩
  · intro key
    have once := supplied.calls_eq key
    have again := supplied'.calls_eq key
    have requests := (perm.map (p.perRequest r key)).sum_nat
    have singletons := ((kept_perm.map Prod.fst).map (p.perCall r key)).sum_nat
    rw [log_eq, log_eq']
    simp only [Workshop.ofRegistry, List.nil_append, List.map_nil, List.sum_nil, Nat.add_zero] at *
    omega

/-! ## A supper in summer -/

namespace Supper

/-- There is a garden. -/
def summerRegistry : Registry String Unit := ⟨registry.entries ++ [(garden, .fixed "garden")]⟩

def mixed (key : Capability) (_ : Unit) (got : List String) : String := key.typeName ++ toString got

/-- Nothing is burnt, and it is counted how much was made. -/
def summerPlan : Plan Nat String Unit :=
  { plan with finish := fun key f got made => (.ok (mixed key f got), made + 1) }

theorem summer_settled : summerPlan.Settled summerRegistry mixed where
  complete key k needs := by
    obtain ⟨f, -, needed⟩ := needs
    rcases of_mem_needs needed with ⟨-, among⟩ | ⟨-, rfl⟩ | ⟨-, rfl⟩
    · have all : ∀ k ∈ [water, toast, herbs], summerRegistry.contains k = true := by decide
      exact all k among
    · decide
    · decide
  finish_eq _ _ _ _ _ := rfl

end Supper

theorem summer_any_order :
    Supper.summerPlan.Settled Supper.summerRegistry Supper.mixed ∧
      [Supper.soup, Supper.toast, Supper.herbs].Perm [Supper.herbs, Supper.toast, Supper.soup] ∧
      SameSupply Supper.summerRegistry [Supper.soup, Supper.toast, Supper.herbs]
        [Supper.herbs, Supper.toast, Supper.soup]
        ([Supper.soup, Supper.toast, Supper.herbs].mapM Supper.summerPlan.cookbook.get
          (.ofRegistry Supper.summerRegistry ⟨0, []⟩))
        ([Supper.herbs, Supper.toast, Supper.soup].mapM Supper.summerPlan.cookbook.get
          (.ofRegistry Supper.summerRegistry ⟨0, []⟩)) := by
  have perm : [Supper.soup, Supper.toast, Supper.herbs].Perm
      [Supper.herbs, Supper.toast, Supper.soup] := by decide
  exact ⟨Supper.summer_settled, perm, any_order Supper.summer_settled perm ⟨0, []⟩ ⟨0, []⟩⟩

end Plan

end HostBench
