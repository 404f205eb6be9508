/-
  Factories that follow a plan: each resolves a fixed list of capabilities in order, gives up with the
  first error, and otherwise makes its service of what it has got. It may fail on its own then.

  As long as no factory fails on its own, there is a service just for the capabilities from which the
  lists lead to registered ones only (`Plan.Closed`), whatever has been resolved before. The error says
  where the lists lead elsewhere for the first time (`Plan.Way`), with one `factory` for each
  capability on the way; and so it does for an error of a factory, unless that says that something is
  disposed of (`Plan.resolves_iff_closed`). All this follows from what a single resolution can come to
  (`Plan.Outcome`), which is shown for all capabilities by induction on their ranks (`outcome_get`).
-/
import HostBench.Proofs.Service.Chronicle
import HostBench.Proofs.Service.Kept
import Mathlib.Logic.Relation

namespace HostBench

variable {E V F α : Type}

/-! ## Plans -/

def Entry.factory? : Entry V F → Option F
  | .fixed _ => none
  | .singleton f | .transient f => some f

/-- The factory that is registered under a capability. -/
def Registry.factory? (r : Registry V F) (key : Capability) : Option F :=
  (r.find? key).bind Entry.factory?

theorem Registry.factory?_of_find? {r : Registry V F} {key : Capability} {e : Entry V F}
    (registered : r.find? key = some e) : r.factory? key = e.factory? := by
  simp [factory?, registered]

theorem Registry.contains_of_factory {r : Registry V F} {key : Capability} {f : F}
    (factory : r.factory? key = some f) : r.contains key = true := by
  cases registered : r.find? key with
  | none => simp [factory?, registered] at factory
  | some e => simp [contains, registered]

/-- What lies around a provider, and which factories have failed on their own, the first one first. -/
structure Ledger (E : Type) where
  around : E
  failures : List (Capability × ResolveError)

/-- A factory has finished. -/
def Ledger.enter (l : Ledger E) (key : Capability) : Except ResolveError V × E → Ledger E
  | (.ok _, around) => ⟨around, l.failures⟩
  | (.error e, around) => ⟨around, l.failures ++ [(key, e)]⟩

/-- What the factories of a registry resolve, in order, and what they do when they have got all
that. -/
structure Plan (E V F : Type) where
  rank : Capability → Nat
  needs : Capability → F → List Capability
  /-- No factory leads back to itself. -/
  lower : ∀ key f, ∀ k ∈ needs key f, rank k < rank key
  finish : Capability → F → List V → E → Except ResolveError V × E

namespace Plan

/-- Resolves what a factory needs and has not got yet. -/
def gather (p : Plan E V F) (key : Capability) (f : F) : (ks : List Capability) →
    (∀ k ∈ ks, p.rank k < p.rank key) → (got : List V) →
    Recipe (Ledger E) V F (fun k => p.rank k < p.rank key) (Except ResolveError V)
  | [], _, got =>
    .act (fun l => l.enter key (p.finish key f got l.around)) fun l =>
      .done (p.finish key f got l.around).1
  | k :: ks, lower, got =>
    .get k (lower k List.mem_cons_self) fun
      | .error e => .done (.error e)
      | .ok v => p.gather key f ks (fun k' h => lower k' (List.mem_cons_of_mem k h)) (got ++ [v])

/-- The factories that follow the plan. -/
def cookbook (p : Plan E V F) : Cookbook (Ledger E) V F where
  rank := p.rank
  recipe key f := p.gather key f (p.needs key f) (p.lower key f) []

/-! ## Where the needs lead -/

variable {p : Plan E V F} {r : Registry V F} {key k : Capability} {f : F}

/-- The factory of one capability needs the other one. -/
def Needs (p : Plan E V F) (r : Registry V F) (key k : Capability) : Prop :=
  ∃ f, r.factory? key = some f ∧ k ∈ p.needs key f

/-- All that is needed, directly or by what is needed, is registered, and so is the capability. -/
def Closed (p : Plan E V F) (r : Registry V F) (key : Capability) : Prop :=
  ∀ k, Relation.ReflTransGen (p.Needs r) key k → r.contains k = true

theorem closed_iff :
    p.Closed r key ↔ r.contains key = true ∧ ∀ k, p.Needs r key k → p.Closed r k := by
  constructor
  · intro closed
    exact ⟨closed key .refl, fun k needs k' further => closed k' (further.head needs)⟩
  · rintro ⟨registered, needed⟩ k leads
    rcases leads.cases_head with rfl | ⟨k', needs, further⟩
    · exact registered
    · exact needed k' needs k further

theorem closed_of_factory (factory : r.factory? key = some f)
    (needed : ∀ k ∈ p.needs key f, p.Closed r k) : p.Closed r key := by
  refine closed_iff.mpr ⟨Registry.contains_of_factory factory, ?_⟩
  rintro k ⟨f', factory', needs⟩
  obtain rfl : f = f' := Option.some.inj (factory.symm.trans factory')
  exact needed k needs

/-- From a capability to another one by the first need, each time, for which there may be no service:
all needs before it are closed. The path does not contain the last capability. -/
inductive Way (p : Plan E V F) (r : Registry V F) : Capability → List Capability → Capability → Prop
  | here {key : Capability} : Way p r key [] key
  | on {key k goal : Capability} {f : F} {before after path : List Capability}
      (factory : r.factory? key = some f) (needs : p.needs key f = before ++ k :: after)
      (served : ∀ b ∈ before, p.Closed r b) (further : Way p r k path goal) :
      Way p r key (key :: path) goal

theorem Way.leads {path : List Capability} {goal : Capability} (way : p.Way r key path goal) :
    Relation.ReflTransGen (p.Needs r) key goal := by
  induction way with
  | here => exact .refl
  | on factory needs _ _ ih =>
    exact ih.head ⟨_, factory, by rw [needs]; exact List.mem_append_right _ List.mem_cons_self⟩

/-- A way of some length begins at its first capability, which is registered. -/
theorem Way.start {path : List Capability} {goal : Capability} (way : p.Way r key path goal) :
    path = [] ∧ goal = key ∨ r.contains key = true ∧ ∃ rest, path = key :: rest := by
  cases way with
  | here => exact .inl ⟨rfl, rfl⟩
  | on factory _ _ _ => exact .inr ⟨Registry.contains_of_factory factory, _, rfl⟩

end Plan

/-! ## Errors on their way -/

namespace ResolveError

/-- An error from the last of some capabilities, as the first of them tells it. -/
def wrapped (path : List Capability) (e : ResolveError) : ResolveError :=
  path.foldr (fun key e => .factory key.typeName e.message) e

theorem foldr_through_disposed (path : List Capability) (d : DisposedError) :
    path.foldr through (.disposed d) = .disposed d := by
  induction path with
  | nil => rfl
  | cons key path ih =>
    rw [List.foldr_cons, ih]
    rfl

theorem through_of_ne {e : ResolveError} (other : ∀ d, e ≠ .disposed d) (key : Capability) :
    e.through key = .factory key.typeName e.message := by
  cases e with
  | disposed d => exact absurd rfl (other d)
  | _ => rfl

theorem foldr_through {e : ResolveError} (other : ∀ d, e ≠ .disposed d) (path : List Capability) :
    path.foldr through e = wrapped path e := by
  induction path with
  | nil => rfl
  | cons key path ih =>
    have wrapped_ne : ∀ d, wrapped path e ≠ .disposed d := by
      cases path with
      | nil => exact other
      | cons k path => simp [wrapped]
    rw [List.foldr_cons, ih, through_of_ne wrapped_ne]
    rfl

end ResolveError

namespace Plan

variable {p : Plan E V F} {r : Registry V F} {key : Capability} {f : F}

/-! ## What a resolution can come to -/

/-- The factory of a capability may get all that it needs, and fail then on its own. -/
def Fails (p : Plan E V F) (r : Registry V F) (key : Capability) (e : ResolveError) : Prop :=
  ∃ f got around, r.factory? key = some f ∧ (∀ k ∈ p.needs key f, p.Closed r k) ∧
    (p.finish key f got around).1 = .error e

/-- Why there is no service at the end of a way, and which failures of factories that adds. -/
inductive Halts (p : Plan E V F) (r : Registry V F) (goal : Capability) :
    ResolveError → List (Capability × ResolveError) → Prop
  | missing (unknown : r.contains goal = false) : Halts p r goal (.notRegistered goal.typeName) []
  | failed {e : ResolveError} (fails : p.Fails r goal e) : Halts p r goal (e.through goal) [(goal, e)]

/-- What a resolution answers, and which failures of factories it adds. -/
inductive Outcome (p : Plan E V F) (r : Registry V F) (key : Capability) :
    Except ResolveError V → List (Capability × ResolveError) → Prop
  | served {v : V} (closed : p.Closed r key) : Outcome p r key (.ok v) []
  | stopped {path : List Capability} {goal : Capability} {e : ResolveError}
      {own : List (Capability × ResolveError)} (way : p.Way r key path goal)
      (halts : p.Halts r goal e own) : Outcome p r key (.error (path.foldr .through e)) own

/-- What a factory comes to that has still to resolve some capabilities. -/
inductive Gathered (p : Plan E V F) (r : Registry V F) (key : Capability) (f : F)
    (ks : List Capability) : Except ResolveError V → List (Capability × ResolveError) → Prop
  | made {v : V} (served : ∀ k ∈ ks, p.Closed r k) : Gathered p r key f ks (.ok v) []
  | failed {got : List V} {around : E} {e : ResolveError} (served : ∀ k ∈ ks, p.Closed r k)
      (fails : (p.finish key f got around).1 = .error e) : Gathered p r key f ks (.error e) [(key, e)]
  | stopped {before after path : List Capability} {k goal : Capability} {e : ResolveError}
      {own : List (Capability × ResolveError)} (needs : ks = before ++ k :: after)
      (served : ∀ b ∈ before, p.Closed r b) (way : p.Way r k path goal) (halts : p.Halts r goal e own) :
      Gathered p r key f ks (.error (path.foldr .through e)) own

theorem Gathered.cons {ks : List Capability} {k : Capability} (closed : p.Closed r k)
    {result : Except ResolveError V} {own : List (Capability × ResolveError)}
    (gathered : p.Gathered r key f ks result own) : p.Gathered r key f (k :: ks) result own := by
  cases gathered with
  | made served => exact .made (List.forall_mem_cons.mpr ⟨closed, served⟩)
  | failed served fails => exact .failed (List.forall_mem_cons.mpr ⟨closed, served⟩) fails
  | stopped needs served way halts =>
    exact .stopped (congrArg (k :: ·) needs) (List.forall_mem_cons.mpr ⟨closed, served⟩) way halts

/-- What the result of a factory means for its capability. -/
theorem Gathered.outcome (factory : r.factory? key = some f) {result : Except ResolveError V}
    {own : List (Capability × ResolveError)}
    (gathered : p.Gathered r key f (p.needs key f) result own) :
    p.Outcome r key (result.mapError (·.through key)) own := by
  cases gathered with
  | made served => exact .served (closed_of_factory factory served)
  | failed served fails => exact .stopped .here (.failed ⟨f, _, _, factory, served, fails⟩)
  | stopped needs served way halts => exact .stopped (.on factory needs served way) halts

/-! ## The state of the cache -/

/-- A provider that keeps only singletons of closed capabilities. -/
def Sound (p : Plan E V F) (r : Registry V F) (q : Provider V F) : Prop :=
  ∃ kept, q = .holding r kept ∧ ∀ key ∈ kept.map Prod.fst, p.Closed r key

/-- The provider stays sound, and some factories have failed on their own. -/
structure Leaves (p : Plan E V F) (r : Registry V F) (w w' : Workshop (Ledger E) V F)
    (own : List (Capability × ResolveError)) : Prop where
  sound : p.Sound r w'.provider
  failures_eq : w'.around.failures = w.around.failures ++ own

theorem Leaves.trans {w w' w'' : Workshop (Ledger E) V F} {own : List (Capability × ResolveError)}
    (first : p.Leaves r w w' []) (second : p.Leaves r w' w'' own) : p.Leaves r w w'' own where
  sound := second.sound
  failures_eq := by rw [second.failures_eq, first.failures_eq, List.append_nil]

namespace Sound

variable {q : Provider V F}

theorem contains_eq (sound : p.Sound r q) (key : Capability) : q.contains key = r.contains key := by
  obtain ⟨kept, rfl, -⟩ := sound
  rfl

theorem closed_of_found (sound : p.Sound r q) {v : V} (found : q.lookup key = .found v) :
    p.Closed r key := by
  obtain ⟨kept, rfl, closed⟩ := sound
  rcases Provider.holding_of_found found with known | ⟨-, registered⟩
  · exact closed key (List.mem_map_of_mem (Capability.mem_of_lookup known))
  · have fixed : r.factory? key = none := Registry.factory?_of_find? registered
    refine closed_iff.mpr ⟨by simp [Registry.contains, registered], ?_⟩
    rintro k ⟨f, factory, -⟩
    simp [fixed] at factory

theorem of_refused (sound : p.Sound r q) {e : ResolveError} (refused : q.lookup key = .refused e) :
    r.contains key = false ∧ e = .notRegistered key.typeName := by
  obtain ⟨kept, rfl, -⟩ := sound
  obtain ⟨-, unknown, named⟩ := Provider.holding_of_refused refused
  exact ⟨by simp [Registry.contains, unknown], named⟩

theorem factory_of_toMake (sound : p.Sound r q) {lifetime : ServiceLifetime}
    (toMake : q.lookup key = .toMake lifetime f) : r.factory? key = some f := by
  obtain ⟨kept, rfl, -⟩ := sound
  rcases (Provider.holding_of_toMake toMake).2 with ⟨registered, -⟩ | ⟨registered, -⟩ <;>
    exact Registry.factory?_of_find? registered

/-- A service of a closed capability is handed out, and if it is kept, that is sound. -/
theorem accept_ok (sound : p.Sound r q) (closed : p.Closed r key) (lifetime : ServiceLifetime) (v : V) :
    ∃ u q', q.accept key lifetime (.ok v) = (.ok u, q') ∧ p.Sound r q' := by
  obtain ⟨kept, rfl, all⟩ := sound
  rcases Provider.accept_ok_cases r kept key lifetime v with ⟨u, accepted⟩ | accepted
  · exact ⟨u, _, accepted, kept, rfl, all⟩
  · refine ⟨v, _, accepted, _, rfl, fun k hk => ?_⟩
    rw [List.map_append, List.mem_append] at hk
    rcases hk with hk | hk
    · exact all k hk
    · rw [List.mem_singleton.mp hk]
      exact closed

end Sound

/-! ## Resolving by a plan -/

/-- What a factory resolves and does, if all that it may resolve comes to its outcome. -/
theorem gathered_run (inner : ∀ k, p.rank k < p.rank key → ∀ w, p.Sound r w.provider →
      ∃ own, p.Leaves r w (p.cookbook.get k w).2 own ∧ p.Outcome r k (p.cookbook.get k w).1 own)
    (f : F) (ks : List Capability) (lower : ∀ k ∈ ks, p.rank k < p.rank key) (got : List V)
    (w : Workshop (Ledger E) V F) (sound : p.Sound r w.provider) :
    ∃ own, p.Leaves r w ((p.gather key f ks lower got).run (fun k _ => p.cookbook.get k) w).2 own ∧
      p.Gathered r key f ks
        ((p.gather key f ks lower got).run (fun k _ => p.cookbook.get k) w).1 own := by
  induction ks generalizing got w with
  | nil =>
    have served : ∀ k ∈ ([] : List Capability), p.Closed r k := by simp
    cases finished : p.finish key f got w.around.around with
    | mk result around =>
      have entered : (p.gather key f [] lower got).run (fun k _ => p.cookbook.get k) w =
          (result, { w with around := w.around.enter key (result, around) }) := by
        simp only [gather, Recipe.run, finished]
      rw [entered]
      cases result with
      | ok v => exact ⟨[], ⟨sound, (List.append_nil _).symm⟩, .made served⟩
      | error e =>
        exact ⟨[(key, e)], ⟨sound, rfl⟩, .failed served (congrArg Prod.fst finished)⟩
  | cons k ks ih =>
    obtain ⟨own, leaves, outcome⟩ := inner k (lower k List.mem_cons_self) w sound
    have run_eq : (p.gather key f (k :: ks) lower got).run (fun k _ => p.cookbook.get k) w =
        ((match (p.cookbook.get k w).1 with
          | .error e => .done (.error e)
          | .ok v => p.gather key f ks (fun k' h => lower k' (List.mem_cons_of_mem k h)) (got ++ [v])
            : Recipe (Ledger E) V F (fun k => p.rank k < p.rank key) _).run
              fun k _ => p.cookbook.get k) (p.cookbook.get k w).2 := rfl
    rw [run_eq]
    generalize p.cookbook.get k w = resolved at leaves outcome
    obtain ⟨answer, w'⟩ := resolved
    cases outcome with
    | @served v closed =>
      obtain ⟨own, later, gathered⟩ := ih (fun k' h => lower k' (List.mem_cons_of_mem k h)) (got ++ [v])
        w' leaves.sound
      exact ⟨own, leaves.trans later, gathered.cons closed⟩
    | stopped way halts =>
      exact ⟨own, leaves, .stopped (List.nil_append _).symm (by simp) way halts⟩

/-- A factory has come to its result. -/
theorem outcome_made {make : F → StateM (Workshop (Ledger E) V F) (Except ResolveError V)}
    {w w' : Workshop (Ledger E) V F} {lifetime : ServiceLifetime} {result : Except ResolveError V}
    {own : List (Capability × ResolveError)} (looked : w.provider.lookup key = .toMake lifetime f)
    (factory : r.factory? key = some f)
    (made : make f (w.noting [.asked w.log.length key (w.provider.keeps key),
      .called w.log.length key]) = (result, w'))
    (leaves : p.Leaves r w w' own) (gathered : p.Gathered r key f (p.needs key f) result own) :
    p.Leaves r w (Workshop.resolve make key w).2 own ∧
      p.Outcome r key (Workshop.resolve make key w).1 own := by
  have outcome := gathered.outcome factory
  rw [Workshop.resolve_of_toMake looked made]
  cases result with
  | error e => exact ⟨⟨leaves.sound, leaves.failures_eq⟩, outcome⟩
  | ok v =>
    cases outcome with
    | served closed =>
      obtain ⟨u, q, accepted, kept⟩ := leaves.sound.accept_ok closed lifetime v
      rw [accepted]
      exact ⟨⟨kept, leaves.failures_eq⟩, .served closed⟩

/-- Each resolution comes to its outcome. -/
theorem outcome_get (p : Plan E V F) (r : Registry V F) (key : Capability) (w : Workshop (Ledger E) V F)
    (sound : p.Sound r w.provider) :
    ∃ own, p.Leaves r w (p.cookbook.get key w).2 own ∧
      p.Outcome r key (p.cookbook.get key w).1 own := by
  rw [Cookbook.get]
  cases looked : w.provider.lookup key with
  | found v =>
    rw [Workshop.resolve_of_found looked]
    exact ⟨[], ⟨sound, (List.append_nil _).symm⟩, .served (sound.closed_of_found looked)⟩
  | refused e =>
    obtain ⟨unknown, rfl⟩ := sound.of_refused looked
    rw [Workshop.resolve_of_refused looked]
    exact ⟨[], ⟨sound, (List.append_nil _).symm⟩, .stopped .here (.missing unknown)⟩
  | toMake lifetime f =>
    have factory := sound.factory_of_toMake looked
    obtain ⟨own, leaves, gathered⟩ := gathered_run
      (fun k lower w sound => outcome_get p r k w sound) f (p.needs key f) (p.lower key f) []
      (w.noting [.asked w.log.length key (w.provider.keeps key), .called w.log.length key]) sound
    exact ⟨own, outcome_made looked factory (Prod.ext rfl rfl)
      ⟨leaves.sound, leaves.failures_eq⟩ gathered⟩
termination_by p.rank key

/-- Whatever is done with a provider, it is released or stays sound. -/
theorem sound_serve (client : Cookbook.Client (Ledger E) V F α) (w : Workshop (Ledger E) V F)
    (before : w.provider.isReleased = true ∨ p.Sound r w.provider) :
    (p.cookbook.serve client w).2.provider.isReleased = true ∨
      p.Sound r (p.cookbook.serve client w).2.provider := by
  induction client generalizing w with
  | done a => exact before
  | act change next ih => exact ih _ _ before
  | look next ih => exact ih _ _ before
  | get key allowed next ih =>
    refine ih _ (p.cookbook.get key w).2 ?_
    rcases before with gone | sound
    · obtain ⟨l, -, chronicle, -⟩ := p.cookbook.leads_get key w
      exact .inl (chronicle.isReleased_mono gone)
    · obtain ⟨own, leaves, -⟩ := outcome_get p r key w sound
      exact .inr leaves.sound
  | release next ih => exact ih _ _ (.inl rfl)

theorem sound_of_live (client : Cookbook.Client (Ledger E) V F α) (around : Ledger E)
    (live : (p.cookbook.serve client (.ofRegistry r around)).2.provider.isReleased = false) :
    p.Sound r (p.cookbook.serve client (.ofRegistry r around)).2.provider := by
  have start : p.Sound r (Workshop.ofRegistry r around).provider :=
    ⟨[], rfl, by simp⟩
  rcases p.sound_serve client (.ofRegistry r around) (.inr start) with gone | sound
  · simp [gone] at live
  · exact sound

/-! ## The errors of a resolution -/

/-- What is to be said of the answer for a capability, if `own` are the failures of factories that
were added. -/
structure Verdict (p : Plan E V F) (r : Registry V F) (key : Capability)
    (answer : Except ResolveError V) (own : List (Capability × ResolveError)) : Prop where
  /-- If no factory has failed on its own, there is a service just for a closed capability. -/
  ok_iff : own = [] → ((∃ v, answer = .ok v) ↔ p.Closed r key)
  unregistered : r.contains key = false → answer = .error (.notRegistered key.typeName)
  /-- For any other capability that is not closed, the error tells the way to the first one that is
  not registered. -/
  blocked : own = [] → r.contains key = true → ¬ p.Closed r key →
    ∃ path goal, p.Way r key (key :: path) goal ∧ r.contains goal = false ∧
      answer = .error (.wrapped (key :: path) (.notRegistered goal.typeName))
  /-- What is said not to be registered is the capability itself. -/
  names_itself : ∀ name, answer = .error (.notRegistered name) →
    name = key.typeName ∧ r.contains key = false
  /-- No more than one factory fails on its own. What it says is disposed of, the answer says too; any
  other error tells the way to that factory. -/
  failed : own ≠ [] → ∃ path k e, own = [(k, e)] ∧ p.Fails r k e ∧ p.Way r key path k ∧
    (∀ d, e = .disposed d → answer = .error (.disposed d)) ∧
    ((∀ d, e ≠ .disposed d) → answer = .error (.wrapped (path ++ [k]) e))

theorem verdict_of_closed (closed : p.Closed r key) (v : V) : p.Verdict r key (.ok v) [] where
  ok_iff _ := ⟨fun _ => closed, fun _ => ⟨v, rfl⟩⟩
  unregistered unknown := by simp [closed key .refl] at unknown
  blocked _ _ opened := absurd closed opened
  names_itself _ same := by simp at same
  failed failures := absurd rfl failures

/-- The way leads to a capability that is not registered. -/
theorem Way.verdict_of_missing {path : List Capability} {goal : Capability}
    (way : p.Way r key path goal) (unknown : r.contains goal = false) :
    p.Verdict r key (.error (path.foldr .through (.notRegistered goal.typeName)) : Except _ V) [] := by
  have opened : ¬ p.Closed r key := fun closed => by simp [closed goal way.leads] at unknown
  have told := ResolveError.foldr_through (e := .notRegistered goal.typeName) (by simp) path
  rw [told]
  rcases way.start with ⟨rfl, rfl⟩ | ⟨registered, rest, rfl⟩
  · exact {
      ok_iff := fun _ => ⟨fun ⟨_, same⟩ => (nomatch same), fun closed => absurd closed opened⟩
      unregistered := fun _ => rfl
      blocked := fun _ registered => by simp [unknown] at registered
      names_itself := fun name same => by
        simp only [Except.error.injEq, ResolveError.wrapped, List.foldr_nil,
          ResolveError.notRegistered.injEq] at same
        exact ⟨same.symm, unknown⟩
      failed := fun failures => absurd rfl failures }
  · exact {
      ok_iff := fun _ => ⟨fun ⟨_, same⟩ => (nomatch same), fun closed => absurd closed opened⟩
      unregistered := fun absent => by simp [registered] at absent
      blocked := fun _ _ _ => ⟨rest, goal, way, unknown, rfl⟩
      names_itself := fun name same => by simp [ResolveError.wrapped] at same
      failed := fun failures => absurd rfl failures }

/-- The way leads to a factory that fails on its own. -/
theorem Way.verdict_of_failed {path : List Capability} {goal : Capability} {e : ResolveError}
    (way : p.Way r key path goal) (fails : p.Fails r goal e) :
    p.Verdict r key (.error (path.foldr .through (e.through goal)) : Except _ V) [(goal, e)] := by
  have told : path.foldr .through (e.through goal) = (path ++ [goal]).foldr .through e := by
    rw [List.foldr_append]
    rfl
  have begins : r.contains key = true := by
    rcases way.start with ⟨-, rfl⟩ | ⟨known, -⟩
    · obtain ⟨f, got, around, factory, -⟩ := fails
      exact Registry.contains_of_factory factory
    · exact known
  exact {
    ok_iff := fun none => by simp at none
    unregistered := fun absent => by simp [begins] at absent
    blocked := fun none => by simp at none
    names_itself := by
      intro name same
      have through_ne : ∀ (e : ResolveError) k, e.through k ≠ .notRegistered name := by
        intro e k
        cases e <;> simp [ResolveError.through]
      rw [Except.error.injEq] at same
      cases path with
      | nil => exact absurd same (through_ne e goal)
      | cons k path => exact absurd same (through_ne _ k)
    failed := by
      refine fun _ => ⟨path, goal, e, rfl, fails, way, ?_, ?_⟩
      · rintro d rfl
        rw [told, ResolveError.foldr_through_disposed]
      · intro other
        rw [told, ResolveError.foldr_through other] }

theorem Outcome.verdict {answer : Except ResolveError V} {own : List (Capability × ResolveError)}
    (outcome : p.Outcome r key answer own) : p.Verdict r key answer own := by
  cases outcome with
  | served closed => exact verdict_of_closed closed _
  | stopped way halts =>
    cases halts with
    | missing unknown => exact way.verdict_of_missing unknown
    | failed fails => exact way.verdict_of_failed fails

/-- Resolving a capability, whatever has been done before with a provider that has not been released.
If no factory can fail, none has failed. -/
theorem resolves_iff_closed (p : Plan E V F) (r : Registry V F) (around : Ledger E)
    (client : Cookbook.Client (Ledger E) V F α) (key : Capability)
    (live : (p.cookbook.serve client (.ofRegistry r around)).2.provider.isReleased = false) :
    let w := (p.cookbook.serve client (.ofRegistry r around)).2
    ∃ own, p.Verdict r key (p.cookbook.get key w).1 own ∧
      (p.cookbook.get key w).2.around.failures = w.around.failures ++ own ∧
      w.provider.contains key = r.contains key ∧
      ((∀ k e, ¬ p.Fails r k e) → own = []) := by
  intro w
  have sound : p.Sound r w.provider := sound_of_live client around live
  obtain ⟨own, leaves, outcome⟩ := outcome_get p r key w sound
  refine ⟨own, outcome.verdict, leaves.failures_eq, sound.contains_eq key, ?_⟩
  intro reliable
  generalize (p.cookbook.get key w).1 = answer at outcome
  cases outcome with
  | served closed => rfl
  | stopped way halts =>
    cases halts with
    | missing unknown => rfl
    | failed fails => exact absurd fails (reliable _ _)

/-! ## A supper -/

namespace Supper

def water : Capability := ⟨"water"⟩
def bread : Capability := ⟨"bread"⟩
def toast : Capability := ⟨"toast"⟩
def garden : Capability := ⟨"garden"⟩
def herbs : Capability := ⟨"herbs"⟩
def soup : Capability := ⟨"soup"⟩

/-- There is no garden. -/
def registry : Registry String Unit :=
  ⟨[(water, .fixed "water"), (bread, .singleton ()), (toast, .transient ()), (herbs, .transient ()),
    (soup, .singleton ())]⟩

def needs (key : Capability) : List Capability :=
  if key = soup then [water, toast, herbs]
  else if key = toast then [bread]
  else if key = herbs then [garden]
  else []

theorem of_mem_needs {key k : Capability} (needed : k ∈ needs key) :
    key = soup ∧ k ∈ [water, toast, herbs] ∨ key = toast ∧ k = bread ∨ key = herbs ∧ k = garden := by
  unfold needs at needed
  split at needed
  · exact .inl ⟨‹_›, needed⟩
  · split at needed
    · exact .inr (.inl ⟨‹_›, List.mem_singleton.mp needed⟩)
    · split at needed
      · exact .inr (.inr ⟨‹_›, List.mem_singleton.mp needed⟩)
      · simp at needed

def rank (key : Capability) : Nat :=
  if key = soup then 2 else if key = toast ∨ key = herbs then 1 else 0

/-- The first bread is burnt. -/
def plan : Plan Nat String Unit where
  rank := rank
  needs key _ := needs key
  lower key _ k needed := by
    rcases of_mem_needs needed with ⟨rfl, among⟩ | ⟨rfl, rfl⟩ | ⟨rfl, rfl⟩
    · revert k
      decide
    · decide
    · decide
  finish key _ got attempts :=
    if key = bread ∧ attempts = 0 then (.error (.factory "bread" "burnt"), attempts + 1)
    else (.ok (String.intercalate ", " got), attempts)

/-- Makes toast until there is some. -/
def cook : Cookbook.Client (Ledger Nat) String Unit (Option String) :=
  .tryGet soup trivial fun _ =>
  .tryGet toast trivial fun slice => .done slice

end Supper

theorem supper_without_herbs :
    let w := (Supper.plan.cookbook.serve Supper.cook (.ofRegistry Supper.registry ⟨0, []⟩)).2
    w.provider.isReleased = false ∧
      ∃ own, Supper.plan.Verdict Supper.registry Supper.soup
          (Supper.plan.cookbook.get Supper.soup w).1 own ∧
        (Supper.plan.cookbook.get Supper.soup w).2.around.failures = w.around.failures ++ own ∧
        w.provider.contains Supper.soup = Supper.registry.contains Supper.soup ∧
        ((∀ k e, ¬ Supper.plan.Fails Supper.registry k e) → own = []) :=
  ⟨by decide +kernel, resolves_iff_closed Supper.plan Supper.registry ⟨0, []⟩ Supper.cook Supper.soup
    (by decide +kernel)⟩

end Plan

end HostBench
