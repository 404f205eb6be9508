/-
  Registrations over whole histories. Services of any lifetime are offered to a registry under any
  capabilities, one after the other, and what is registered is reported (`Intake`).

  An offer is accepted just if it is the first of its capability (`submit_of_free`,
  `submit_of_taken`), so the entries of the registry are the accepted offers, and the reports are one
  for each of them (`after_eq`). The capabilities are then those of all offers, each once
  (`keys_perm`); the names that are listed are theirs, in order, and so they are settled by which
  capabilities were offered, and not by when (`names_eq_of_same`). All of it is put together in
  `first_come`.
-/
import HostBench.Builder
import HostBench.Proofs.Basics
import HostBench.Proofs.Service.Offers
import Mathlib.Data.List.Dedup

namespace HostBench

variable {V F : Type}

/-! ## Offers that are reported -/

/-- A registry in the making, with all that has been reported of it. -/
structure Intake (V F : Type) where
  registry : Registry V F
  reports : List Trace.Event

/-- What is reported of a service that was registered. -/
def Trace.Event.ofOffer (o : Capability × Entry V F) : Trace.Event :=
  .serviceRegistered o.1.typeName o.2.lifetime.text

namespace Intake

/-- Nothing has been offered yet. -/
def new : Intake V F := ⟨.empty, []⟩

/-- Makes an offer. The registry stays as it is if the registration fails. -/
def submit (b : Intake V F) (o : Capability × Entry V F) :
    Except RegistrationError Unit × Intake V F :=
  match (Builder.registerReporting o.1 o.2 b.registry).run.run b.reports with
  | (.ok r, reports) => (.ok (), ⟨r, reports⟩)
  | (.error e, reports) => (.error e, ⟨b.registry, reports⟩)

/-- Makes offers, one after the other, with the answer to each of them. -/
def run (b : Intake V F) :
    List (Capability × Entry V F) → List (Except RegistrationError Unit) × Intake V F
  | [] => ([], b)
  | o :: rest => ((b.submit o).1 :: ((b.submit o).2.run rest).1, ((b.submit o).2.run rest).2)

/-- The intake to which some offers have been made. -/
def after (offers : List (Capability × Entry V F)) : Intake V F := (new.run offers).2

variable {b : Intake V F} {o : Capability × Entry V F}

theorem submit_of_free (free : b.registry.contains o.1 = false) :
    b.submit o = (.ok (), ⟨⟨b.registry.entries ++ [o]⟩, b.reports ++ [.ofOffer o]⟩) := by
  have accepted : b.registry.register o.1 o.2 = .ok ⟨b.registry.entries ++ [o]⟩ :=
    Registry.register_eq_ok_iff.mpr ⟨free, rfl⟩
  unfold submit Builder.registerReporting
  rw [accepted]
  rfl

theorem submit_of_taken (taken : b.registry.contains o.1 = true) :
    b.submit o = (.error (.duplicate o.1.typeName), b) := by
  unfold submit Builder.registerReporting Registry.register
  rw [taken]
  rfl

theorem run_concat (b : Intake V F) (offers : List (Capability × Entry V F))
    (o : Capability × Entry V F) :
    b.run (offers ++ [o]) =
      ((b.run offers).1 ++ [((b.run offers).2.submit o).1], ((b.run offers).2.submit o).2) := by
  induction offers generalizing b with
  | nil => rfl
  | cons o' rest ih => simp [run, ih]

theorem after_concat (offers : List (Capability × Entry V F)) (o : Capability × Entry V F) :
    after (offers ++ [o]) = ((after offers).submit o).2 := by
  rw [after, run_concat, ← after]

/-- An offer is answered by the intake that the offers before it have left. -/
theorem getElem?_run (b : Intake V F) (before later : List (Capability × Entry V F))
    (o : Capability × Entry V F) :
    (b.run (before ++ o :: later)).1[before.length]? = some ((b.run before).2.submit o).1 := by
  induction before generalizing b with
  | nil => rfl
  | cons o' rest ih => simpa [run] using ih (b.submit o').2

/-- What is registered are the offers that were accepted, and these are reported. -/
theorem after_eq (offers : List (Capability × Entry V F)) :
    after offers = ⟨.enrol offers, (Registry.enrol offers).entries.map .ofOffer⟩ := by
  induction offers using List.reverseRecOn with
  | nil => rfl
  | append_singleton offers o ih =>
    rw [after_concat, ih, Registry.enrol_concat]
    cases taken : (Registry.enrol offers).contains o.1 with
    | true => rw [submit_of_taken taken, Registry.offer_of_taken taken]
    | false => rw [submit_of_free taken, Registry.offer_of_free taken, List.map_append]; rfl

end Intake

/-! ## Which capabilities there are -/

namespace Registry

theorem contains_enrol_iff {offers : List (Capability × Entry V F)} {key : Capability} :
    (enrol offers).contains key = true ↔ key ∈ offers.map Prod.fst := by
  rw [← contains_iff (r := ⟨offers⟩), contains, contains, find?_enrol, find?]

/-- The capabilities that are registered are those that were offered, each once. -/
theorem keys_perm (offers : List (Capability × Entry V F)) :
    ((enrol offers).entries.map Prod.fst).Perm (offers.map Prod.fst).dedup := by
  refine (List.perm_ext_iff_of_nodup (distinct_enrol offers) (List.nodup_dedup _)).mpr fun key => ?_
  rw [List.mem_dedup, ← contains_iff, contains_enrol_iff]

/-! ## The listing -/

/-- The names that a registry lists. -/
def names (r : Registry V F) : List String := r.types.map Prod.fst

theorem dump_eq (r : Registry V F) :
    r.dump = .record "ServiceRegistry" [("services", .list (r.names.map .string))] := by
  rw [dump, names, List.map_map]
  rfl

theorem sorted_names {r : Registry V F} (distinct : r.Distinct) : r.names.Pairwise (· < ·) :=
  List.pairwise_map.mpr (sorted_types distinct)

theorem names_perm (offers : List (Capability × Entry V F)) :
    (enrol offers).names.Perm ((offers.map Prod.fst).dedup.map Capability.typeName) := by
  have listed := (types_perm (enrol offers)).map Prod.fst
  rw [List.map_map] at listed
  have keys := (keys_perm offers).map Capability.typeName
  rw [List.map_map] at keys
  exact listed.trans keys

/-- The names are settled by which capabilities were offered. -/
theorem names_eq_of_same {offers other : List (Capability × Entry V F)}
    (same : ∀ key, key ∈ other.map Prod.fst ↔ key ∈ offers.map Prod.fst) :
    (enrol other).names = (enrol offers).names := by
  refine eq_of_sorted (sorted_names (distinct_enrol other)) (sorted_names (distinct_enrol offers))
    fun name => ?_
  rw [names, names, mem_names_iff (distinct_enrol other), mem_names_iff (distinct_enrol offers),
    contains_enrol_iff, contains_enrol_iff, same]

/-- The listing is settled by the lifetimes of the first offers. -/
theorem types_eq_of_same {offers other : List (Capability × Entry V F)}
    (same : ∀ key : Capability,
      (key.lookup other).map Entry.lifetime = (key.lookup offers).map Entry.lifetime) :
    (enrol other).types = (enrol offers).types := by
  refine eq_of_sorted (sorted_types (distinct_enrol other)) (sorted_types (distinct_enrol offers)) ?_
  rintro ⟨name, lifetime⟩
  have lifetimes := same ⟨name⟩
  simp only [← find?_enrol] at lifetimes
  simp only [mem_types_iff (distinct_enrol _), ← Option.map_eq_some_iff, lifetimes]

end Registry

/-! ## Whole histories -/

namespace Intake

/-- What holds of an intake after some offers, beginning with none. -/
structure FirstCome (offers : List (Capability × Entry V F)) : Prop where
  /-- Each offer is answered. -/
  answers : (new.run offers).1.length = offers.length
  /-- An offer is accepted exactly if none before it was of the same capability. -/
  accepted_iff : ∀ before o later, offers = before ++ o :: later →
    ((new.run offers).1[before.length]? = some (.ok ()) ↔ o.1 ∉ before.map Prod.fst)
  /-- What is accepted is found from then on, and reported; all else is found as before. -/
  accepted : ∀ before o later, offers = before ++ o :: later → o.1 ∉ before.map Prod.fst →
    (∀ key, (after (before ++ [o])).registry.find? key =
      if key = o.1 then some o.2 else (after before).registry.find? key) ∧
    (after (before ++ [o])).reports = (after before).reports ++ [.ofOffer o]
  /-- What is refused is refused by its name. Nothing is reported and no entry changes. -/
  refused : ∀ before o later, offers = before ++ o :: later → o.1 ∈ before.map Prod.fst →
    (new.run offers).1[before.length]? = some (.error (.duplicate o.1.typeName)) ∧
    after (before ++ [o]) = after before
  /-- In the end the first offer of a capability is found. -/
  found : ∀ key : Capability, (after offers).registry.find? key = key.lookup offers
  /-- There are as many services as capabilities that were offered, -/
  size : (after offers).registry.size = (offers.map Prod.fst).dedup.length
  /-- and as many reports. -/
  reports : (after offers).reports.length = (after offers).registry.size
  /-- The registry and its provider list the same names. -/
  shown : (after offers).registry.dump = .record "ServiceRegistry"
      [("services", .list ((after offers).registry.names.map .string))] ∧
    (Provider.ofRegistry (after offers).registry).types.map (·.map Prod.fst) =
      .ok (after offers).registry.names
  /-- They are in order, each of them once. -/
  sorted : (after offers).registry.names.Pairwise (· < ·)
  /-- They are the names of the capabilities that were offered. -/
  names : (after offers).registry.names.Perm
    ((offers.map Prod.fst).dedup.map Capability.typeName)
  /-- With the same capabilities, in whatever order they were offered, the names are the same, -/
  any_order : ∀ other : List (Capability × Entry V F),
    (∀ key, key ∈ other.map Prod.fst ↔ key ∈ offers.map Prod.fst) →
    (after other).registry.dump = (after offers).registry.dump ∧
      (after other).registry.names = (after offers).registry.names
  /-- and with the same lifetimes the provider lists the same. -/
  any_order_types : ∀ other : List (Capability × Entry V F),
    (∀ key : Capability,
      (key.lookup other).map Entry.lifetime = (key.lookup offers).map Entry.lifetime) →
    (Provider.ofRegistry (after other).registry).types =
      (Provider.ofRegistry (after offers).registry).types

theorem length_run (b : Intake V F) (offers : List (Capability × Entry V F)) :
    (b.run offers).1.length = offers.length := by
  induction offers generalizing b with
  | nil => rfl
  | cons o rest ih => simp [run, ih]

/-- **The first offer counts.** Whatever is offered to a new registry, in whatever order: the first
offer of each capability is registered and reported, all others are refused and change nothing, and
the listing shows which capabilities there are and not in which order they came. -/
theorem first_come (offers : List (Capability × Entry V F)) : FirstCome offers := by
  have registry : ∀ offers : List (Capability × Entry V F),
      (after offers).registry = .enrol offers := fun offers => by rw [after_eq]
  have free_or_taken : ∀ (before : List (Capability × Entry V F)) (o : Capability × Entry V F),
      (after before).registry.contains o.1 = true ↔ o.1 ∈ before.map Prod.fst := fun before o => by
    rw [registry, Registry.contains_enrol_iff]
  have free : ∀ {before : List (Capability × Entry V F)} {o : Capability × Entry V F},
      o.1 ∉ before.map Prod.fst → (after before).registry.contains o.1 = false := fun unseen =>
    Bool.eq_false_iff.mpr fun taken => unseen ((free_or_taken _ _).mp taken)
  constructor
  case answers => exact length_run _ _
  case accepted_iff =>
    rintro before o later rfl
    rw [getElem?_run, ← after]
    by_cases seen : o.1 ∈ before.map Prod.fst
    · rw [submit_of_taken ((free_or_taken _ _).mpr seen)]
      simp [seen]
    · rw [submit_of_free (free seen)]
      simp [seen]
  case accepted =>
    rintro before o later rfl unseen
    rw [after_concat, submit_of_free (free unseen)]
    refine ⟨fun key => ?_, rfl⟩
    exact Registry.find?_register (Registry.register_eq_ok_iff.mpr ⟨free unseen, rfl⟩) key
  case refused =>
    rintro before o later rfl seen
    have taken := (free_or_taken before o).mpr seen
    rw [getElem?_run, after_concat, ← after, submit_of_taken taken]
    exact ⟨rfl, rfl⟩
  case found =>
    intro key
    rw [registry, Registry.find?_enrol]
  case size => rw [registry, ← (Registry.keys_perm offers).length_eq, List.length_map, Registry.size]
  case reports => rw [after_eq, List.length_map, Registry.size]
  case shown => exact ⟨Registry.dump_eq _, rfl⟩
  case sorted =>
    rw [registry]
    exact Registry.sorted_names (Registry.distinct_enrol offers)
  case names =>
    rw [registry]
    exact Registry.names_perm offers
  case any_order =>
    intro other same
    have names := Registry.names_eq_of_same same
    rw [registry, registry, Registry.dump_eq, Registry.dump_eq, names]
    exact ⟨rfl, rfl⟩
  case any_order_types =>
    intro other same
    rw [registry, registry]
    exact congrArg Except.ok (Registry.types_eq_of_same same)

end Intake

end HostBench
