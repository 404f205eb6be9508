/-
  What a provider keeps, and what it answers. A provider that has not been released is a registry
  with the singletons that have been made (`Provider.holding`). Which those are can be read from a log
  (`successes`), and a resolution answers by the entry of the capability and by what is kept
  (`holding_of_found`, `holding_of_refused`, `holding_of_toMake`, `accept_holding`).
-/
import HostBench.Proofs.Service.Recipe
import Mathlib.Data.List.Nodup

namespace HostBench

variable {V F : Type}

/-! ## What is kept -/

/-- A singleton is registered under the capability. -/
def Registry.isSingleton (r : Registry V F) (key : Capability) : Bool :=
  (r.find? key).any fun e => e.lifetime == .singleton

/-- The singleton that a factory has made according to a mark. -/
def Mark.success? (r : Registry V F) : Mark V F → Option (Capability × V)
  | .made _ key (.ok v) => if r.isSingleton key then some (key, v) else none
  | _ => none

/-- The singletons that were made according to a log, in order. -/
def successes (r : Registry V F) (log : List (Mark V F)) : List (Capability × V) :=
  log.filterMap (Mark.success? r)

/-- The provider of a registry that keeps some singletons. -/
def Provider.holding (r : Registry V F) (kept : List (Capability × V)) : Provider V F :=
  ⟨some ⟨r, kept⟩⟩

/-- Singletons as a provider may keep them: each once, and no other services. -/
structure Keepable (r : Registry V F) (kept : List (Capability × V)) : Prop where
  nodup : (kept.map Prod.fst).Nodup
  singleton : ∀ key ∈ kept.map Prod.fst, r.isSingleton key = true

theorem Capability.lookup_eq_none_iff {β : Type} {key : Capability} {entries : List (Capability × β)} :
    key.lookup entries = none ↔ key ∉ entries.map Prod.fst := by
  unfold lookup
  rw [Option.map_eq_none_iff, List.find?_eq_none]
  constructor
  · intro none_found known
    obtain ⟨entry, hentry, rfl⟩ := List.mem_map.mp known
    exact none_found entry hentry (beq_self_eq_true _)
  · intro unknown entry hentry same
    exact unknown (List.mem_map.mpr ⟨entry, hentry, eq_of_beq same⟩)

theorem Capability.mem_of_lookup {β : Type} {key : Capability} {entries : List (Capability × β)} {b : β}
    (found : key.lookup entries = some b) : (key, b) ∈ entries := by
  obtain ⟨⟨k, c⟩, hit, rfl⟩ := Option.map_eq_some_iff.mp found
  have same : k = key := by simpa using List.find?_some hit
  rw [← same]
  exact List.mem_of_find?_eq_some hit

theorem value_unique {β : Type} {entries : List (Capability × β)} (nodup : (entries.map Prod.fst).Nodup)
    {key : Capability} {b c : β} (hb : (key, b) ∈ entries) (hc : (key, c) ∈ entries) : b = c := by
  have same := List.inj_on_of_nodup_map nodup hb hc rfl
  exact congrArg Prod.snd same

@[simp] theorem successes_nil (r : Registry V F) : successes r ([] : List (Mark V F)) = [] := rfl

@[simp] theorem successes_append (r : Registry V F) (l m : List (Mark V F)) :
    successes r (l ++ m) = successes r l ++ successes r m := List.filterMap_append

theorem successes_ending (r : Registry V F) (id : Nat) (key : Capability) (lifetime : ServiceLifetime)
    (result answer : Except ResolveError V) :
    successes r (Mark.ending id key lifetime result answer) = successes r [.made id key result] := by
  cases result <;> simp [Mark.ending, successes, Mark.success?, List.filterMap_cons]

theorem mem_successes_iff {r : Registry V F} {log : List (Mark V F)} {key : Capability} {v : V} :
    (key, v) ∈ successes r log ↔ r.isSingleton key = true ∧ ∃ id, .made id key (.ok v) ∈ log := by
  unfold successes
  rw [List.mem_filterMap]
  constructor
  · rintro ⟨m, hm, success⟩
    cases m with
    | made id k result =>
      cases result with
      | error e => cases success
      | ok u =>
        simp only [Mark.success?] at success
        split at success
        · rename_i single
          cases success
          exact ⟨single, id, hm⟩
        · cases success
    | _ => cases success
  · rintro ⟨single, id, hm⟩
    exact ⟨_, hm, by simp [Mark.success?, single]⟩

theorem key_mem_of_success {r : Registry V F} {log : List (Mark V F)} {key : Capability}
    (h : key ∈ (successes r log).map Prod.fst) : ∃ m ∈ log, m.key? = some key := by
  obtain ⟨⟨k, v⟩, made, rfl⟩ := List.mem_map.mp h
  obtain ⟨-, id, hm⟩ := mem_successes_iff.mp made
  exact ⟨_, hm, rfl⟩

/-- A singleton that is made while nothing is kept for its capability may be kept. -/
theorem Keepable.append {r : Registry V F} {kept : List (Capability × V)} (keepable : Keepable r kept)
    {key : Capability} (fresh : key.lookup kept = none) (id : Nat) (result : Except ResolveError V) :
    Keepable r (kept ++ successes r [.made id key result]) := by
  cases result with
  | error e => simpa [successes, Mark.success?, List.filterMap_cons] using keepable
  | ok v =>
    by_cases single : r.isSingleton key = true
    · have absent := Capability.lookup_eq_none_iff.mp fresh
      have made : successes r [.made id key (.ok v)] = [(key, v)] := by
        simp [successes, Mark.success?, single]
      rw [made]
      constructor
      · rw [List.map_append]
        refine List.nodup_append.mpr ⟨keepable.nodup, List.nodup_singleton _, ?_⟩
        intro k hk k' hk' same
        rw [same, List.mem_singleton.mp hk'] at hk
        exact absent hk
      · intro k hk
        rw [List.map_append, List.mem_append] at hk
        rcases hk with hk | hk
        · exact keepable.singleton k hk
        · rw [List.mem_singleton.mp hk]
          exact single
    · simpa [successes, Mark.success?, single, List.filterMap_cons] using keepable

/-! ## What a provider answers -/

namespace Provider

variable {r : Registry V F} {kept : List (Capability × V)} {key : Capability}

theorem keeps_holding : (holding r kept : Provider V F).keeps key = (key.lookup kept).isSome := rfl

/-- A factory is called for a capability for which nothing is kept. -/
theorem holding_of_toMake {lifetime : ServiceLifetime} {f : F}
    (toMake : (holding r kept).lookup key = .toMake lifetime f) :
    key.lookup kept = none ∧
      (r.find? key = some (.singleton f) ∧ lifetime = .singleton ∨
        r.find? key = some (.transient f) ∧ lifetime = .transient) := by
  simp only [lookup, holding] at toMake
  cases known : key.lookup kept with
  | some v => simp [known] at toMake
  | none =>
    rw [known] at toMake
    cases registered : r.find? key with
    | none => simp [registered] at toMake
    | some e =>
      cases e with
      | fixed v => simp [registered] at toMake
      | singleton g =>
        simp only [registered, Lookup.toMake.injEq] at toMake
        obtain ⟨rfl, rfl⟩ := toMake
        exact ⟨rfl, .inl ⟨rfl, rfl⟩⟩
      | transient g =>
        simp only [registered, Lookup.toMake.injEq] at toMake
        obtain ⟨rfl, rfl⟩ := toMake
        exact ⟨rfl, .inr ⟨rfl, rfl⟩⟩

/-- A service is found if it is kept or was there from the beginning. -/
theorem holding_of_found {v : V} (found : (holding r kept).lookup key = .found v) :
    key.lookup kept = some v ∨ key.lookup kept = none ∧ r.find? key = some (.fixed v) := by
  simp only [lookup, holding] at found
  cases known : key.lookup kept with
  | some u =>
    rw [known] at found
    cases found
    exact .inl rfl
  | none =>
    rw [known] at found
    cases registered : r.find? key with
    | none => simp [registered] at found
    | some e =>
      cases e with
      | fixed u =>
        simp only [registered, Lookup.found.injEq] at found
        subst found
        exact .inr ⟨rfl, rfl⟩
      | singleton g => simp [registered] at found
      | transient g => simp [registered] at found

theorem holding_of_refused {e : ResolveError} (refused : (holding r kept).lookup key = .refused e) :
    key.lookup kept = none ∧ r.find? key = none ∧ e = .notRegistered key.typeName := by
  simp only [lookup, holding] at refused
  cases known : key.lookup kept with
  | some u => simp [known] at refused
  | none =>
    rw [known] at refused
    cases registered : r.find? key with
    | none =>
      simp only [registered, Lookup.refused.injEq] at refused
      exact ⟨rfl, rfl, refused.symm⟩
    | some e => cases e <;> simp [registered] at refused

/-- What a factory has made is the answer, and it is kept if it is a singleton. -/
theorem accept_holding (fresh : key.lookup kept = none) {lifetime : ServiceLifetime} (id : Nat)
    (result : Except ResolveError V)
    (agree : lifetime = .transient ↔ r.isSingleton key = false) :
    (holding r kept).accept key lifetime result =
      (result.mapError (·.through key), holding r (kept ++ successes r [.made id key result])) := by
  cases result with
  | error e => simp [accept, successes, Mark.success?, Except.mapError, List.filterMap_cons]
  | ok v =>
    by_cases transient : lifetime = .transient
    · have single := agree.mp transient
      simp [accept, transient, successes, Mark.success?, single, Except.mapError]
    · have single : r.isSingleton key = true := by
        simpa using fun h => transient (agree.mpr h)
      simp [accept, transient, successes, Mark.success?, single, keep, holding, fresh,
        Except.mapError]

/-- What a factory has made is handed out, or a service that is kept, and nothing else changes than
that it may be kept from now on. -/
theorem accept_ok_cases (r : Registry V F) (kept : List (Capability × V)) (key : Capability)
    (lifetime : ServiceLifetime) (v : V) :
    (∃ u, (holding r kept).accept key lifetime (.ok v) = (.ok u, holding r kept)) ∨
      (holding r kept).accept key lifetime (.ok v) = (.ok v, holding r (kept ++ [(key, v)])) := by
  by_cases transient : lifetime = .transient
  · exact .inl ⟨v, by simp [accept, transient]⟩
  · cases known : key.lookup kept with
    | some old => exact .inl ⟨old, by simp [accept, transient, keep, holding, known]⟩
    | none => exact .inr (by simp [accept, transient, keep, holding, known])

end Provider

theorem Registry.isSingleton_iff {r : Registry V F} {key : Capability} :
    r.isSingleton key = true ↔ ∃ f, r.find? key = some (.singleton f) := by
  unfold isSingleton
  cases r.find? key with
  | none => simp
  | some e => cases e <;> simp [Entry.lifetime]

theorem Registry.isSingleton_of_find? {r : Registry V F} {key : Capability} {e : Entry V F}
    (registered : r.find? key = some e) : r.isSingleton key = (e.lifetime == .singleton) := by
  simp [isSingleton, registered]

end HostBench
