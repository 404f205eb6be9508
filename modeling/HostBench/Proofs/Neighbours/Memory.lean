/-
  A memory that hosts share. Clocks, logs, providers, lifetimes and all else are kept at addresses, each
  part of the memory for itself. What belongs to a host is its deed: its home, where its provider, its
  lifetime and the host itself are kept, and the goods that its builder was given (`Deed.owns`).

  A program is confined to a deed if its answer, and what becomes of the things of the deed, depend on
  these things alone, and if it changes nothing else (`Confined`). Confined programs make up a kind
  (`confinedKind`), which holds all that is done at the places of the deed (`Deed.open_place`), as long
  as the things of the deed stay in order: its logs read its own clocks, and its host is at home
  (`Deed.InOrder`).
-/
import HostBench.EventLog
import HostBench.Proofs.Disposal.Composed
import Mathlib.Logic.Function.Basic

namespace HostBench

/-! ## Memories -/

/-- The parts of a memory. -/
inductive Part where
  | clock
  | log
  | provider
  | lifetime
  /-- The timers on which shutdowns are measured: for each host its own alarms and turns. -/
  | timer
  | host
  /-- Objects of any other kind. -/
  | object
  deriving DecidableEq

/-- A host where it is kept, with its disposal as long as that is in progress. -/
structure Tenant (H ρ : Type) where
  host : Host
  disposal : Option (Disposal H ρ)

/-- Its provider and its lifetime are kept at a home, and the disposal is its own. -/
structure Tenant.At {H ρ : Type} (x : Tenant H ρ) (home : Nat) : Prop where
  provider : x.host.provider = home
  lifetime : x.host.lifetime = home
  own : ∀ disposal, x.disposal = some disposal → disposal.host = x.host

/-- What is kept at an address of a part. -/
abbrev Content (E V F H ρ W : Type) : Part → Type
  | .clock => FakeClock W
  | .log => EventLog
  | .provider => Provider V F
  | .lifetime => Lifetime H W
  | .timer => Timer W
  | .host => Option (Tenant H ρ)
  | .object => E

/-- What is kept at each address of each part, and the first address at which no host was built yet. -/
structure Memory (E V F H ρ W : Type) where
  cells : (part : Part) → Nat → Content E V F H ρ W part
  next : Nat

variable {E V F H ρ W α β : Type}

namespace Memory

/-- Puts something at an address. -/
def put (part : Part) (i : Nat) (a : Content E V F H ρ W part) (s : Memory E V F H ρ W) :
    Memory E V F H ρ W :=
  { s with cells := Function.update s.cells part (Function.update (s.cells part) i a) }

/-- An address as a place of the memory. -/
def place (part : Part) (i : Nat) : Place (Memory E V F H ρ W) (Content E V F H ρ W part) :=
  ⟨fun s => s.cells part i, put part i⟩

variable (s : Memory E V F H ρ W) {part part' : Part} {i i' : Nat}

@[simp] theorem cells_put_self (a : Content E V F H ρ W part) :
    (s.put part i a).cells part i = a := by
  simp [put]

theorem cells_put_of_ne (a : Content E V F H ρ W part) (other : part' = part → i' ≠ i) :
    (s.put part i a).cells part' i' = s.cells part' i' := by
  unfold put
  by_cases same : part' = part
  · subst same
    simp [other rfl]
  · simp [same]

end Memory

/-! ## Deeds -/

/-- What a builder is given for its host. -/
structure Goods where
  clocks : List Nat
  logs : List Nat
  objects : List Nat

/-- What belongs to a host: what is kept at its home, and its goods. -/
structure Deed where
  home : Nat
  goods : Goods

namespace Deed

/-- An address belongs to the deed. The log that a host makes for itself is at home. -/
def owns (d : Deed) : Part → Nat → Bool
  | .clock, i => decide (i ∈ d.goods.clocks)
  | .log, i => decide (i = d.home) || decide (i ∈ d.goods.logs)
  | .object, i => decide (i ∈ d.goods.objects)
  | .provider, i | .lifetime, i | .timer, i | .host, i => decide (i = d.home)

/-- In two memories the things of a deed are the same. -/
def Agree (d : Deed) (s t : Memory E V F H ρ W) : Prop :=
  ∀ part i, d.owns part i = true → s.cells part i = t.cells part i

/-- Nothing has changed from one memory to another but the things of a deed. -/
structure Spares (d : Deed) (s t : Memory E V F H ρ W) : Prop where
  next_eq : t.next = s.next
  cells_eq : ∀ part i, d.owns part i = false → t.cells part i = s.cells part i

/-- The things of a deed are in order: its logs read its own clocks, and its host is at home. -/
structure InOrder (d : Deed) (s : Memory E V F H ρ W) : Prop where
  reads_own : ∀ l, d.owns .log l = true →
    ∀ c, (s.cells .log l).source = .fake c → d.owns .clock c = true
  at_home : ∀ x, s.cells .host d.home = some x → x.At d.home

variable {d : Deed} {s t u : Memory E V F H ρ W}

theorem Spares.refl (d : Deed) (s : Memory E V F H ρ W) : d.Spares s s := ⟨rfl, fun _ _ _ => rfl⟩

theorem Spares.trans (first : d.Spares s t) (second : d.Spares t u) : d.Spares s u where
  next_eq := second.next_eq.trans first.next_eq
  cells_eq part i foreign := (second.cells_eq part i foreign).trans (first.cells_eq part i foreign)

theorem owns_host (d : Deed) : d.owns .host d.home = true := decide_eq_true rfl

/-- What belongs to a host is at home, or was given to its builder. -/
theorem owns_cases {part : Part} {i : Nat} (owned : d.owns part i = true) :
    (i = d.home ∧ part ≠ .clock ∧ part ≠ .object) ∨ (part = .clock ∧ i ∈ d.goods.clocks) ∨
      (part = .log ∧ i ∈ d.goods.logs) ∨ (part = .object ∧ i ∈ d.goods.objects) := by
  cases part <;> simp_all [owns]

theorem InOrder.of_agree (order : d.InOrder s) (agree : d.Agree s t) : d.InOrder t where
  reads_own l owned c reads := by
    rw [← agree .log l owned] at reads
    exact order.reads_own l owned c reads
  at_home x found := by
    rw [← agree .host d.home d.owns_host] at found
    exact order.at_home x found

end Deed

/-! ## Confined programs -/

/-- A program is confined to a deed: what it answers and what becomes of the things of the deed is
settled by these things, and it changes nothing else. -/
structure Confined (d : Deed) (m : StateM (Memory E V F H ρ W) α) : Prop where
  answers : ∀ s t, d.InOrder s → d.Agree s t → (m s).1 = (m t).1
  agrees : ∀ s t, d.InOrder s → d.Agree s t → d.Agree (m s).2 (m t).2
  spares : ∀ s, d.InOrder s → d.Spares s (m s).2
  order : ∀ s, d.InOrder s → d.InOrder (m s).2

namespace Confined

variable {d : Deed}

theorem pure (a : α) : Confined d (Pure.pure a : StateM (Memory E V F H ρ W) α) where
  answers _ _ _ _ := rfl
  agrees _ _ _ agree := agree
  spares s _ := .refl d s
  order _ order := order

/-- In sequence, where the first program gives only such answers. -/
theorem bind_of {m : StateM (Memory E V F H ρ W) α} {k : α → StateM (Memory E V F H ρ W) β}
    {R : α → Prop} (first : Confined d m) (gives : ∀ s, d.InOrder s → R (m s).1)
    (next : ∀ a, R a → Confined d (k a)) : Confined d (m >>= k) where
  answers s t order agree := by
    show (k (m s).1 (m s).2).1 = (k (m t).1 (m t).2).1
    rw [← first.answers s t order agree]
    exact (next _ (gives s order)).answers _ _ (first.order s order)
      (first.agrees s t order agree)
  agrees s t order agree := by
    show d.Agree (k (m s).1 (m s).2).2 (k (m t).1 (m t).2).2
    rw [← first.answers s t order agree]
    exact (next _ (gives s order)).agrees _ _ (first.order s order)
      (first.agrees s t order agree)
  spares s order :=
    (first.spares s order).trans ((next _ (gives s order)).spares _ (first.order s order))
  order s order := (next _ (gives s order)).order _ (first.order s order)

theorem bind {m : StateM (Memory E V F H ρ W) α} {k : α → StateM (Memory E V F H ρ W) β}
    (first : Confined d m) (next : ∀ a, Confined d (k a)) : Confined d (m >>= k) :=
  bind_of (R := fun _ => True) first (fun _ _ => trivial) fun a _ => next a

variable {part : Part} {i : Nat}

/-- To look at what belongs to a deed is confined to it. -/
theorem read (owned : d.owns part i = true) :
    Confined d (Memory.place part i : Place (Memory E V F H ρ W) _).read where
  answers _ _ _ agree := agree part i owned
  agrees _ _ _ agree := agree
  spares s _ := .refl d s
  order _ order := order

/-- To put something at an address of the deed is confined to it, if this leaves the deed in order. -/
theorem write (owned : d.owns part i = true) (a : Content E V F H ρ W part)
    (keeps : ∀ s : Memory E V F H ρ W, d.InOrder s → d.InOrder (s.put part i a)) :
    Confined d ((Memory.place part i : Place (Memory E V F H ρ W) _).write a) where
  answers _ _ _ _ := rfl
  agrees s t _ agree := by
    intro part' i' owned'
    show (s.put part i a).cells part' i' = (t.put part i a).cells part' i'
    by_cases same : part' = part ∧ i' = i
    · obtain ⟨rfl, rfl⟩ := same
      rw [Memory.cells_put_self, Memory.cells_put_self]
    · have other : part' = part → i' ≠ i := fun h h' => same ⟨h, h'⟩
      rw [Memory.cells_put_of_ne s a other, Memory.cells_put_of_ne t a other]
      exact agree part' i' owned'
  spares s _ := by
    refine ⟨rfl, fun part' i' foreign => Memory.cells_put_of_ne s a ?_⟩
    rintro rfl rfl
    rw [owned] at foreign
    cases foreign
  order s order := keeps s order

end Confined

/-- The programs that are confined to a deed. -/
def confinedKind (E V F H ρ W : Type) (d : Deed) : ProgramKind (Memory E V F H ρ W) where
  Has := Confined d
  pure := .pure
  bind := .bind

namespace Deed

variable {d : Deed} {s : Memory E V F H ρ W} {part : Part} {i : Nat}

/-- Only what is done to its logs and its host can bring a deed out of order. -/
theorem InOrder.put (order : d.InOrder s) (a : Content E V F H ρ W part) (no_log : part ≠ .log)
    (no_host : part ≠ .host) : d.InOrder (s.put part i a) where
  reads_own l owned c reads := by
    rw [Memory.cells_put_of_ne s a fun same => absurd same.symm no_log] at reads
    exact order.reads_own l owned c reads
  at_home x found := by
    rw [Memory.cells_put_of_ne s a fun same => absurd same.symm no_host] at found
    exact order.at_home x found

/-- A log may be put where it was, or where another one was, if it reads a clock of the deed. -/
theorem InOrder.put_log (order : d.InOrder s) {l : EventLog}
    (own : ∀ c, l.source = .fake c → d.owns .clock c = true) :
    d.InOrder (s.put .log i l) where
  reads_own l' owned c reads := by
    by_cases same : l' = i
    · subst same
      rw [Memory.cells_put_self] at reads
      exact own c reads
    · rw [Memory.cells_put_of_ne s _ fun _ => same] at reads
      exact order.reads_own l' owned c reads
  at_home x found := by
    rw [Memory.cells_put_of_ne s _ fun same => by cases same] at found
    exact order.at_home x found

/-- A host may be put at home, if it is at home there. -/
theorem InOrder.put_host (order : d.InOrder s) {tenant : Option (Tenant H ρ)}
    (at_home : ∀ x, tenant = some x → x.At d.home) : d.InOrder (s.put .host d.home tenant) where
  reads_own l owned c reads := by
    rw [Memory.cells_put_of_ne s _ fun same => by cases same] at reads
    exact order.reads_own l owned c reads
  at_home x found := by
    rw [Memory.cells_put_self] at found
    exact at_home x found

/-- What is done at an address that belongs to a deed is confined to it. -/
theorem open_place (owned : d.owns part i = true) (no_log : part ≠ .log) (no_host : part ≠ .host) :
    (Memory.place part i : Place (Memory E V F H ρ W) _).Open (confinedKind E V F H ρ W d) where
  read := .read owned
  write a := .write owned a fun _ order => order.put a no_log no_host

end Deed

end HostBench
