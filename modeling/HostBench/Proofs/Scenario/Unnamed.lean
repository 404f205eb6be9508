/-
  What a scenario may do to a host that has no name. A host is taken from its name while it is disposed,
  and then commands reach its lifetime and its provider only through the names that those have of their
  own: they register hooks, wait and resolve, as anyone may (`Home.Leaves`). Whatever else they do, they
  build hosts at places of their own and drop hosts that have a name, and those are kept elsewhere
  (`World.Unnamed`).

  The programs that do no more than that are a kind of programs (`Home.sparing`), so that it remains to
  go through the programs that scenarios are made of.
-/
import HostBench.Proofs.Disposal.Within
import HostBench.Scenario.World

namespace HostBench.Scenario

namespace Names

variable {α : Type} {n : Names α} {name : String} {a b : α}

theorem mem_of_mem_erase (kept : a ∈ (n.erase name).objects) : a ∈ n.objects := by
  obtain ⟨entry, there, rfl⟩ := List.mem_map.mp kept
  exact List.mem_map.mpr ⟨entry, (List.mem_filter.mp there).1, rfl⟩

theorem eq_or_mem_of_mem_insert (there : a ∈ (n.insert name b).objects) : a = b ∨ a ∈ n.objects := by
  rcases List.mem_cons.mp there with new | kept
  · exact .inl new
  · exact .inr (mem_of_mem_erase kept)

theorem mem_of_find? (found : n.find? name = some a) : a ∈ n.objects := by
  obtain ⟨before, after, there, -⟩ := List.lookup_eq_some_iff.mp found
  exact List.mem_map.mpr ⟨(name, a), by simp [there], rfl⟩

end Names

/-- Where the lifetime and the provider of a host are kept. -/
structure Home where
  lifetime : Nat
  provider : Nat

/-- A host is kept elsewhere, with its lifetime and with its provider. -/
structure Home.Other (home : Home) (h : Host) : Prop where
  lifetime_ne : h.lifetime ≠ home.lifetime
  provider_ne : h.provider ≠ home.provider

/-- There is a lifetime and a provider at these places, and every host that has a name is kept
elsewhere. -/
structure World.Unnamed (w : World) (home : Home) : Prop where
  lifetime_lt : home.lifetime < w.lifetimes.size
  provider_lt : home.provider < w.providers.size
  other : ∀ h ∈ w.hostNames.objects, home.Other h

/-- From one world to the other lifetimes and providers stay as they are. Hosts may lose their
names. -/
structure World.Beside (w w' : World) : Prop where
  lifetimes : w'.lifetimes = w.lifetimes
  providers : w'.providers = w.providers
  hosts : ∀ h ∈ w'.hostNames.objects, h ∈ w.hostNames.objects

/-- The lifetimes, the providers and the hosts that have a name. -/
def World.hosting (w : World) :
    Array (Lifetime Body Waker) × Array (Provider Service Factory) × Names Host :=
  (w.lifetimes, w.providers, w.hostNames)

theorem World.beside_of_hosting {w w' : World} (same : w'.hosting = w.hosting) : w.Beside w' where
  lifetimes := congrArg (·.1) same
  providers := congrArg (·.2.1) same
  hosts h hh := by rwa [show w'.hostNames = w.hostNames from congrArg (·.2.2) same] at hh

namespace Home

variable {home : Home} {w w' w'' : World}

/-- From one world to the other, the lifetime and the provider of a host without a name are only used,
and it has no name after that either. -/
structure Leaves (home : Home) (w w' : World) : Prop where
  unnamed : w'.Unnamed home
  lifetime : Lifetime.Uses ((World.lifetimeAt home.lifetime).get w)
    ((World.lifetimeAt home.lifetime).get w')
  provider : Provider.Uses ((World.providerAt home.provider).get w)
    ((World.providerAt home.provider).get w')

theorem Leaves.refl (unnamed : w.Unnamed home) : home.Leaves w w := ⟨unnamed, .refl, .refl⟩

theorem Leaves.trans (first : home.Leaves w w') (second : home.Leaves w' w'') : home.Leaves w w'' :=
  ⟨second.unnamed, first.lifetime.trans second.lifetime, first.provider.trans second.provider⟩

/-- Programs that only use the lifetime and the provider of a host while it has no name. -/
def sparing (home : Home) : ProgramKind World where
  Has m := ∀ w, w.Unnamed home → home.Leaves w (m w).2
  pure _ _ unnamed := .refl unnamed
  bind first next w unnamed :=
    (first w unnamed).trans (next _ _ (first w unnamed).unnamed)

/-- The program only uses the lifetime and the provider of a host while it has no name. -/
abbrev Spares {α : Type} (home : Home) (m : Act α) : Prop := home.sparing.Has m

/-! ## What is put down -/

theorem leaves_of_beside (unnamed : w.Unnamed home) (beside : w.Beside w') : home.Leaves w w' where
  unnamed := by
    refine ⟨?_, ?_, fun h hh => unnamed.other h (beside.hosts h hh)⟩
    · rw [beside.lifetimes]
      exact unnamed.lifetime_lt
    · rw [beside.providers]
      exact unnamed.provider_lt
  lifetime := by
    unfold World.lifetimeAt
    dsimp only
    rw [beside.lifetimes]
  provider := by
    unfold World.providerAt
    dsimp only
    rw [beside.providers]

theorem unnamed_lifetime (unnamed : w.Unnamed home) (i : Nat) (l : Lifetime Body Waker) :
    ((World.lifetimeAt i).set l w).Unnamed home := { unnamed with
  lifetime_lt := by
    show home.lifetime < (w.lifetimes.setIfInBounds i l).size
    rw [Array.size_setIfInBounds]
    exact unnamed.lifetime_lt }

theorem unnamed_provider (unnamed : w.Unnamed home) (i : Nat) (p : Provider Service Factory) :
    ((World.providerAt i).set p w).Unnamed home := { unnamed with
  provider_lt := by
    show home.provider < (w.providers.setIfInBounds i p).size
    rw [Array.size_setIfInBounds]
    exact unnamed.provider_lt }

/-- The lifetime at a place becomes another one, which a host without a name has to mind only if the
place is its own. -/
theorem leaves_lifetime (unnamed : w.Unnamed home) {i : Nat} {l : Lifetime Body Waker}
    (use : i = home.lifetime → Lifetime.Use ((World.lifetimeAt i).get w) l) :
    home.Leaves w ((World.lifetimeAt i).set l w) where
  unnamed := unnamed_lifetime unnamed i l
  lifetime := by
    by_cases own : i = home.lifetime
    · have there : (World.lifetimeAt home.lifetime).get ((World.lifetimeAt i).set l w) = l := by
        simp [World.lifetimeAt, own, unnamed.lifetime_lt]
      rw [there, ← own]
      exact .single (use own)
    · have same : (World.lifetimeAt home.lifetime).get ((World.lifetimeAt i).set l w) =
          (World.lifetimeAt home.lifetime).get w := by
        simp [World.lifetimeAt, Array.getElem?_setIfInBounds_ne own]
      rw [same]
  provider := .refl

theorem leaves_provider (unnamed : w.Unnamed home) {i : Nat} {p : Provider Service Factory}
    (use : i = home.provider → Provider.Use ((World.providerAt i).get w) p) :
    home.Leaves w ((World.providerAt i).set p w) where
  unnamed := unnamed_provider unnamed i p
  lifetime := .refl
  provider := by
    by_cases own : i = home.provider
    · have there : (World.providerAt home.provider).get ((World.providerAt i).set p w) = p := by
        simp [World.providerAt, own, unnamed.provider_lt]
      rw [there, ← own]
      exact .single (use own)
    · have same : (World.providerAt home.provider).get ((World.providerAt i).set p w) =
          (World.providerAt home.provider).get w := by
        simp [World.providerAt, Array.getElem?_setIfInBounds_ne own]
      rw [same]

theorem leaves_of_hosting (unnamed : w.Unnamed home) (same : w'.hosting = w.hosting) :
    home.Leaves w w' :=
  leaves_of_beside unnamed (World.beside_of_hosting same)

/-! ## Programs -/

variable {α β : Type}

theorem spares_get : home.Spares (get : Act World) := fun _ unnamed => .refl unnamed

theorem spares_modify {f : World → World} (same : ∀ w : World, (f w).hosting = w.hosting) :
    home.Spares (modify f : Act Unit) := fun w unnamed => leaves_of_hosting unnamed (same w)

theorem open_of_hosting {place : Place World α}
    (same : ∀ a w, (place.set a w).hosting = w.hosting) : place.Open home.sparing where
  read _ unnamed := .refl unnamed
  write a w unnamed := leaves_of_hosting unnamed (same a w)

/-- What comes next may go on from the world as it was, while it is still so. -/
theorem spares_of_get {k : World → Act α} (next : ∀ w, w.Unnamed home → home.Leaves w (k w w).2) :
    home.Spares (get >>= k) := fun w unnamed => next w unnamed

/-- The program only uses the lifetime and the provider of a host while it has no name, and what it
answers is as it should be. -/
def Yields (home : Home) (m : Act α) (Q : α → Prop) : Prop :=
  ∀ w, w.Unnamed home → home.Leaves w (m w).2 ∧ Q (m w).1

theorem Yields.bind {m : Act α} {k : α → Act β} {Q : α → Prop} {R : β → Prop}
    (first : home.Yields m Q) (next : ∀ a, Q a → home.Yields (k a) R) : home.Yields (m >>= k) R := by
  intro w unnamed
  obtain ⟨leaves, answer⟩ := first w unnamed
  obtain ⟨later, final⟩ := next _ answer _ leaves.unnamed
  exact ⟨leaves.trans later, final⟩

theorem yields_iff {m : Act α} : home.Yields m (fun _ => True) ↔ home.Spares m :=
  ⟨fun yields w unnamed => (yields w unnamed).1, fun spares w unnamed => ⟨spares w unnamed, trivial⟩⟩

end Home

end HostBench.Scenario
