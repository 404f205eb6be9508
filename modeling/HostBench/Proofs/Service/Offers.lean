/-
  Registries to which offers are made, one after the other and each of them accepted or refused
  (`Registry.enrol`). The first offer of a capability counts (`find?_enrol`), so each capability is
  there once (`distinct_enrol`). The listing of a registry with distinct capabilities is in order of
  the names, without repetition, and has exactly what is found (`sorted_types`, `mem_types_iff`).
-/
import HostBench.Service.Registry
import Mathlib.Data.List.Induction
import Mathlib.Data.List.Nodup

namespace HostBench

variable {α V F : Type}

theorem Capability.lookup_append (key : Capability) (l l' : List (Capability × α)) :
    key.lookup (l ++ l') = (key.lookup l).or (key.lookup l') := by
  unfold lookup
  rw [List.find?_append]
  cases l.find? (·.1 == key) <;> rfl

theorem Capability.lookup_singleton (key k : Capability) (a : α) :
    key.lookup [(k, a)] = if k = key then some a else none := by
  unfold lookup
  by_cases same : k = key
  · simp [same]
  · simp [same]

/-- Where each capability is listed once, a lookup finds what is listed under it. -/
theorem Capability.lookup_eq_some_iff {l : List (Capability × α)} (nodup : (l.map Prod.fst).Nodup)
    {key : Capability} {a : α} : key.lookup l = some a ↔ (key, a) ∈ l := by
  induction l with
  | nil => simp [lookup]
  | cons x l ih =>
    rw [List.map_cons, List.nodup_cons] at nodup
    rw [← List.singleton_append, lookup_append, lookup_singleton, List.singleton_append,
      List.mem_cons]
    by_cases same : x.1 = key
    · have absent : (key, a) ∉ l := fun listed => nodup.1 (same ▸ List.mem_map_of_mem listed)
      have first : (key, a) = x ↔ x.2 = a := by
        rw [← same]
        exact ⟨fun equal => (congrArg Prod.snd equal).symm, fun equal => by rw [← equal]⟩
      simp [same, absent, first]
    · have other : (key, a) ≠ x := fun equal => same (congrArg Prod.fst equal).symm
      simpa [same, other] using ih nodup.2

namespace Registry

/-! ## Offers -/

/-- Takes an offer, or goes on without it if the capability is taken. -/
def offer (r : Registry V F) (o : Capability × Entry V F) : Registry V F :=
  match r.register o.1 o.2 with
  | .ok r' => r'
  | .error _ => r

/-- The registry to which some offers have been made. -/
def enrol (offers : List (Capability × Entry V F)) : Registry V F := offers.foldl offer .empty

theorem enrol_concat (offers : List (Capability × Entry V F)) (o : Capability × Entry V F) :
    enrol (offers ++ [o]) = (enrol offers).offer o := by
  simp [enrol]

theorem offer_of_free {r : Registry V F} {o : Capability × Entry V F}
    (free : r.contains o.1 = false) : r.offer o = ⟨r.entries ++ [o]⟩ := by
  simp [offer, register, free]

theorem offer_of_taken {r : Registry V F} {o : Capability × Entry V F}
    (taken : r.contains o.1 = true) : r.offer o = r := by
  simp [offer, register, taken]

/-- An offer counts if there was none before it. -/
theorem find?_offer (r : Registry V F) (o : Capability × Entry V F) (key : Capability) :
    (r.offer o).find? key = (r.find? key).or (key.lookup [o]) := by
  cases taken : r.contains o.1 with
  | false => rw [offer_of_free taken, find?, Capability.lookup_append, ← find?]
  | true =>
    rw [offer_of_taken taken, Capability.lookup_singleton]
    by_cases same : o.1 = key
    · obtain ⟨e, found⟩ := Option.isSome_iff_exists.mp (same ▸ taken)
      rw [found, Option.some_or]
    · rw [if_neg same, Option.or_none]

/-- The first offer of a capability is what is found under it. -/
theorem find?_enrol (offers : List (Capability × Entry V F)) (key : Capability) :
    (enrol offers).find? key = key.lookup offers := by
  induction offers using List.reverseRecOn with
  | nil => rfl
  | append_singleton offers o ih =>
    rw [enrol_concat, find?_offer, ih, Capability.lookup_append]

/-! ## Each capability once -/

/-- Each capability is registered once. -/
def Distinct (r : Registry V F) : Prop := (r.entries.map Prod.fst).Nodup

theorem find?_eq_none_iff {r : Registry V F} {key : Capability} :
    r.find? key = none ↔ key ∉ r.entries.map Prod.fst := by
  simp only [find?, Capability.lookup, Option.map_eq_none_iff, List.find?_eq_none, beq_iff_eq,
    List.mem_map, not_exists, not_and]

theorem contains_iff {r : Registry V F} {key : Capability} :
    r.contains key = true ↔ key ∈ r.entries.map Prod.fst := by
  rw [contains, Option.isSome_iff_ne_none, ne_eq, find?_eq_none_iff, not_not]

theorem distinct_offer {r : Registry V F} (distinct : r.Distinct) (o : Capability × Entry V F) :
    (r.offer o).Distinct := by
  cases taken : r.contains o.1 with
  | true =>
    rw [offer_of_taken taken]
    exact distinct
  | false =>
    have new : o.1 ∉ r.entries.map Prod.fst := fun listed => by
      rw [contains_iff.mpr listed] at taken
      cases taken
    rw [offer_of_free taken, Distinct, List.map_append]
    exact distinct.append (List.nodup_singleton _) (by simpa using new)

theorem distinct_enrol (offers : List (Capability × Entry V F)) : (enrol offers).Distinct := by
  induction offers using List.reverseRecOn with
  | nil => exact List.nodup_nil
  | append_singleton offers o ih =>
    rw [enrol_concat]
    exact distinct_offer ih o

/-! ## The listing -/

section Listing

variable {r : Registry V F}

theorem types_perm (r : Registry V F) :
    r.types.Perm (r.entries.map fun e => (e.1.typeName, e.2.lifetime)) := List.mergeSort_perm _ _

theorem length_types (r : Registry V F) : r.types.length = r.size := by
  rw [(types_perm r).length_eq, List.length_map, size]

/-- A name is listed with the lifetime of what is found under it. -/
theorem mem_types_iff (distinct : r.Distinct) {name : String} {lifetime : ServiceLifetime} :
    (name, lifetime) ∈ r.types ↔ ∃ e, r.find? ⟨name⟩ = some e ∧ e.lifetime = lifetime := by
  rw [(types_perm r).mem_iff, List.mem_map]
  constructor
  · rintro ⟨⟨key, e⟩, listed, equal⟩
    obtain ⟨rfl, rfl⟩ := Prod.mk.inj equal
    exact ⟨e, (Capability.lookup_eq_some_iff distinct).mpr listed, rfl⟩
  · rintro ⟨e, found, rfl⟩
    exact ⟨(⟨name⟩, e), (Capability.lookup_eq_some_iff distinct).mp found, rfl⟩

theorem mem_names_iff (distinct : r.Distinct) {name : String} :
    name ∈ r.types.map Prod.fst ↔ r.contains ⟨name⟩ = true := by
  simp only [List.mem_map, Prod.exists, exists_and_right, exists_eq_right,
    mem_types_iff distinct, contains, Option.isSome_iff_exists]
  constructor
  · rintro ⟨lifetime, e, found, -⟩
    exact ⟨e, found⟩
  · rintro ⟨e, found⟩
    exact ⟨_, e, found, rfl⟩

/-- The names are listed in order, each of them once. -/
theorem sorted_types (distinct : r.Distinct) : r.types.Pairwise fun a b => a.1 < b.1 := by
  have sorted : r.types.Pairwise fun a b => decide (a.1 ≤ b.1) = true := by
    refine List.pairwise_mergeSort ?_ ?_ _
    · intro a b c first second
      exact decide_eq_true (String.le_trans (of_decide_eq_true first) (of_decide_eq_true second))
    · intro a b
      simpa using String.le_total a.1 b.1
  have once : (r.types.map Prod.fst).Nodup := by
    have names : (r.types.map Prod.fst).Perm
        ((r.entries.map Prod.fst).map Capability.typeName) := by
      simpa [Function.comp_def] using (types_perm r).map Prod.fst
    have injective : Function.Injective Capability.typeName := by
      rintro ⟨a⟩ ⟨b⟩ equal
      exact congrArg Capability.mk equal
    exact names.nodup_iff.mpr (distinct.map injective)
  refine (sorted.and (List.pairwise_map.mp once)).imp fun {a b} before => ?_
  exact String.not_le.mp fun back =>
    before.2 (String.le_antisymm (of_decide_eq_true before.1) back)

end Listing

end Registry

end HostBench
