/-
  What the answers of a provider have to do with the calls of its factories, as long as the services
  are not released.

  At each moment the provider keeps just the singletons whose factories have succeeded, each once and
  in that order (`Chronicle.holding`). For that it matters that a factory cannot come back to its own
  capability: when it returns, nothing is kept yet for what it has made. The rest follows from what is
  kept: which marks a resolution leaves (`Chronicle.told`), that no factory of a singleton is called
  after it has succeeded (`Chronicle.not_called_after`), where the value of an answer was made
  (`Chronicle.made_before`), and what anyone sees who looks at the provider (`Chronicle.seen`).
-/
import HostBench.Proofs.Service.Chronicle
import HostBench.Proofs.Service.Kept
import Mathlib.Data.Set.Card

namespace HostBench

variable {E V F α : Type}

/-- What a resolution leaves in the log while the services are there, by what is registered, and by
whether a singleton is kept when it begins. -/
inductive Told (r : Registry V F) (id : Nat) (key : Capability) : Bool → List (Mark V F) → Prop
  | unregistered (unknown : r.find? key = none) :
      Told r id key false
        [.asked id key false, .answered id key (.error (.notRegistered key.typeName))]
  | fixed {v : V} (registered : r.find? key = some (.fixed v)) :
      Told r id key false [.asked id key false, .answered id key (.ok v)]
  | kept {f : F} {v : V} (registered : r.find? key = some (.singleton f)) :
      Told r id key true [.asked id key true, .answered id key (.ok v)]
  | singleton {f : F} {result : Except ResolveError V}
      (registered : r.find? key = some (.singleton f)) :
      Told r id key false ([.asked id key false, .called id key] ++
        Mark.ending id key .singleton result (result.mapError (·.through key)))
  | transient {f : F} {result : Except ResolveError V}
      (registered : r.find? key = some (.transient f)) :
      Told r id key false ([.asked id key false, .called id key] ++
        Mark.ending id key .transient result (result.mapError (·.through key)))

namespace Chronicle

variable {c : Cookbook E V F} {p q : Provider V F} {n : Nat} {l : List (Mark V F)}
  {r : Registry V F} {kept : List (Capability × V)} {key : Capability}

/-! ## What is kept at each moment -/

/-- When a factory returns, nothing is kept for its capability: all that was resolved in between has a
lower rank. -/
theorem still_fresh (fresh : key.lookup kept = none)
    (lower : ∀ m ∈ l, ∀ k, m.key? = some k → c.Lower k key) :
    key.lookup (kept ++ successes r l) = none := by
  rw [Capability.lookup_eq_none_iff] at fresh ⊢
  rw [List.map_append, List.mem_append]
  rintro (known | made)
  · exact fresh known
  · obtain ⟨m, hm, about⟩ := key_mem_of_success made
    exact Nat.lt_irrefl _ (lower m hm key about)

theorem accept_eq {lifetime : ServiceLifetime} {f : F}
    (toMake : (Provider.holding r kept).lookup key = .toMake lifetime f)
    (lower : ∀ m ∈ l, ∀ k, m.key? = some k → c.Lower k key) (id : Nat)
    (result : Except ResolveError V) :
    (Provider.holding r (kept ++ successes r l)).accept key lifetime result =
      (result.mapError (·.through key),
        Provider.holding r (kept ++ successes r l ++ successes r [.made id key result])) := by
  obtain ⟨fresh, entry⟩ := Provider.holding_of_toMake toMake
  apply Provider.accept_holding (still_fresh fresh lower)
  · rcases entry with ⟨registered, rfl⟩ | ⟨registered, rfl⟩ <;>
      simp [Registry.isSingleton_of_find? registered, Entry.lifetime]

theorem successes_made {id : Nat} {cached : Bool} {lifetime : ServiceLifetime}
    {result answer : Except ResolveError V} :
    successes r ([.asked id key cached, .called id key] ++ l ++
      Mark.ending id key lifetime result answer) =
        successes r l ++ successes r [.made id key result] := by
  rw [successes_append, successes_append, successes_ending]
  rfl

/-- What is kept are the singletons that have been made. -/
theorem holding (h : Chronicle c.Lower p n l q) (start : p = .holding r kept) (keepable : Keepable r kept)
    (live : q.isReleased = false) :
    q = .holding r (kept ++ successes r l) ∧ Keepable r (kept ++ successes r l) := by
  induction h generalizing kept with
  | nothing | looked | found | refused =>
    refine ⟨?_, ?_⟩ <;>
      simpa [successes, Mark.success?, List.filterMap_cons] using by assumption
  | followed _ second ih ih' =>
    obtain ⟨middle, keepable'⟩ := ih start keepable (second.live_of_live live)
    rw [successes_append, ← List.append_assoc]
    exact ih' middle keepable' live
  | released => cases live
  | @made _ _ n l key lifetime f result toMake inside lower ih =>
    subst start
    rw [Provider.isReleased_accept] at live
    obtain ⟨rfl, keepable'⟩ := ih rfl keepable live
    rw [accept_eq toMake lower n, successes_made, ← List.append_assoc]
    exact ⟨rfl, keepable'.append (still_fresh (Provider.holding_of_toMake toMake).1 lower) n result⟩

/-- Whoever looks at the provider sees the singletons that had been made by then. -/
theorem seen (h : Chronicle c.Lower p n l q) (start : p = .holding r kept) (keepable : Keepable r kept)
    (live : q.isReleased = false) {i : Nat} {x : Provider V F} (looked : l[i]? = some (.looked x)) :
    x = .holding r (kept ++ successes r (l.take i)) := by
  induction h generalizing kept i with
  | nothing => cases looked
  | @followed _ _ _ _ l _ first second ih ih' =>
    have live' := second.live_of_live live
    rcases Nat.lt_or_ge i l.length with before | after
    · rw [List.getElem?_append_left before] at looked
      rw [List.take_append_of_le_length (Nat.le_of_lt before)]
      exact ih start keepable live' looked
    · obtain ⟨middle, keepable'⟩ := first.holding start keepable live'
      rw [List.getElem?_append_right after] at looked
      rw [ih' middle keepable' live looked, List.take_append, List.take_of_length_le after,
        successes_append, List.append_assoc]
  | looked =>
    cases i with
    | zero =>
      cases looked
      simpa using start
    | succ i => simp at looked
  | released => cases live
  | found | refused =>
    have among := List.mem_of_getElem? looked
    simp at among
  | @made _ _ n l key lifetime f result _ _ _ ih =>
    rw [Provider.isReleased_accept] at live
    obtain ⟨j, rfl, inner⟩ := getElem?_made looked (by simp [Mark.id?])
    have within : j ≤ l.length := Nat.le_of_lt (List.getElem?_eq_some_iff.mp inner).1
    rw [take_made within, successes_append]
    exact ih start keepable live inner

/-! ## What a resolution leaves in the log -/

/-- Every resolution leaves what the entry of its capability and what is kept for it say. -/
theorem told (h : Chronicle c.Lower p n l q) (start : p = .holding r kept) (keepable : Keepable r kept)
    (live : q.isReleased = false) {id : Nat} {k : Capability} {cached : Bool}
    (asked : .asked id k cached ∈ l) : Told r id k cached (account id l) := by
  induction h generalizing kept with
  | nothing => cases asked
  | followed first second ih ih' =>
    have live' := second.live_of_live live
    obtain ⟨middle, keepable'⟩ := first.holding start keepable live'
    rw [account_append]
    rcases List.mem_append.mp asked with asked | asked
    · have bounds := first.id_bounds _ asked id rfl
      rw [second.account_of_outside (.inl (by omega)), List.append_nil]
      exact ih start keepable live' asked
    · have bounds := second.id_bounds _ asked id rfl
      rw [first.account_of_outside (.inr (by omega)), List.nil_append]
      exact ih' middle keepable' live asked
  | looked | released => simp at asked
  | found known =>
    subst start
    simp only [List.mem_cons, reduceCtorEq, List.not_mem_nil, or_false] at asked
    cases asked
    rw [Provider.keeps_holding]
    rcases Provider.holding_of_found known with stored | ⟨absent, registered⟩
    · have single := keepable.singleton k (List.mem_map_of_mem (Capability.mem_of_lookup stored))
      obtain ⟨f, registered⟩ := Registry.isSingleton_iff.mp single
      rw [stored]
      simpa [account, Mark.id?] using Told.kept registered
    · rw [absent]
      simpa [account, Mark.id?] using Told.fixed registered
  | refused unknown =>
    subst start
    simp only [List.mem_cons, reduceCtorEq, List.not_mem_nil, or_false] at asked
    cases asked
    obtain ⟨absent, unregistered, rfl⟩ := Provider.holding_of_refused unknown
    rw [Provider.keeps_holding, absent]
    simpa [account, Mark.id?] using Told.unregistered unregistered
  | @made _ _ n l key lifetime f result toMake inside lower ih =>
    subst start
    rw [Provider.isReleased_accept] at live
    obtain ⟨rfl, -⟩ := inside.holding rfl keepable live
    by_cases own : id = n
    · subst own
      have mine := inside.own_of_mem_made asked rfl
      obtain ⟨absent, entry⟩ := Provider.holding_of_toMake toMake
      have same : k = key ∧ cached = false := by
        rw [Provider.keeps_holding, absent] at mine
        cases result <;> simpa [Mark.ending] using mine
      obtain ⟨rfl, rfl⟩ := same
      rw [inside.account_made, accept_eq toMake lower id, Provider.keeps_holding, absent]
      rcases entry with ⟨registered, rfl⟩ | ⟨registered, rfl⟩
      · exact .singleton registered
      · exact .transient registered
    · rw [account_made_of_ne own]
      exact ih rfl keepable live (mem_of_mem_made asked (by simpa [Mark.id?] using own))

/-! ## Calls and answers -/

/-- No factory is called for what is kept. -/
theorem not_called (h : Chronicle c.Lower p n l q) (start : p = .holding r kept)
    (keepable : Keepable r kept) (live : q.isReleased = false) (known : key ∈ kept.map Prod.fst)
    (id : Nat) : .called id key ∉ l := by
  induction h generalizing kept with
  | nothing | looked | released | found | refused => simp
  | followed first second ih ih' =>
    have live' := second.live_of_live live
    obtain ⟨middle, keepable'⟩ := first.holding start keepable live'
    rw [List.mem_append, not_or]
    refine ⟨ih start keepable live' known, ih' middle keepable' live ?_⟩
    rw [List.map_append]
    exact List.mem_append_left _ known
  | @made _ _ n l k lifetime f result toMake inside lower ih =>
    subst start
    rw [Provider.isReleased_accept] at live
    obtain ⟨absent, -⟩ := Provider.holding_of_toMake toMake
    intro called
    by_cases own : id = n
    · subst own
      have mine := inside.own_of_mem_made called rfl
      have same : key = k := by
        cases result <;> simpa [Mark.ending] using mine
      rw [same] at known
      exact Capability.lookup_eq_none_iff.mp absent known
    · exact ih rfl keepable live known (mem_of_mem_made called (by simpa [Mark.id?] using own))

/-- No factory of a singleton is called after it has succeeded. -/
theorem not_called_after (h : Chronicle c.Lower p n l q) (start : p = .holding r kept)
    (keepable : Keepable r kept) (live : q.isReleased = false) (single : r.isSingleton key = true) :
    l.Pairwise fun m m' => ∀ id id' v, m = .made id key (.ok v) → m' ≠ .called id' key := by
  induction h generalizing kept with
  | nothing | looked | released | found | refused => simp
  | followed first second ih ih' =>
    have live' := second.live_of_live live
    obtain ⟨middle, keepable'⟩ := first.holding start keepable live'
    refine List.pairwise_append.mpr ⟨ih start keepable live', ih' middle keepable' live, ?_⟩
    rintro m hm m' hm' id id' v rfl rfl
    refine second.not_called middle keepable' live ?_ id' hm'
    rw [List.map_append, List.mem_append]
    exact .inr (List.mem_map_of_mem (mem_successes_iff.mpr ⟨single, id, hm⟩))
  | @made _ _ n l k lifetime f result toMake inside lower ih =>
    subst start
    rw [Provider.isReleased_accept] at live
    refine List.pairwise_append.mpr
      ⟨List.pairwise_append.mpr ⟨by simp, ih rfl keepable live, ?_⟩, ?_, ?_⟩
    · rintro m hm m' - id id' v rfl
      simp at hm
    · cases result <;> simp [Mark.ending]
    · rintro m - m' hm' id id' v - rfl
      cases result <;> simp [Mark.ending] at hm'

/-- A service of a singleton is handed out only after it was made, or if it was kept before. -/
theorem made_before (h : Chronicle c.Lower p n l q) (start : p = .holding r kept)
    (keepable : Keepable r kept) (live : q.isReleased = false) (single : r.isSingleton key = true)
    {id : Nat} {v : V} (answered : .answered id key (.ok v) ∈ l) :
    (key, v) ∈ kept ∨
      ∃ id', [.made id' key (.ok v), .answered id key (.ok v)].Sublist l := by
  induction h generalizing kept with
  | nothing => cases answered
  | @followed _ _ _ _ l m first second ih ih' =>
    have live' := second.live_of_live live
    obtain ⟨middle, keepable'⟩ := first.holding start keepable live'
    rcases List.mem_append.mp answered with answered | answered
    · rcases ih start keepable live' answered with before | ⟨id', order⟩
      · exact .inl before
      · exact .inr ⟨id', order.trans (List.sublist_append_left l m)⟩
    · rcases ih' middle keepable' live answered with before | ⟨id', order⟩
      · rcases List.mem_append.mp before with before | made
        · exact .inl before
        · obtain ⟨-, id', hm⟩ := mem_successes_iff.mp made
          exact .inr ⟨id', (List.singleton_sublist.mpr hm).append (List.singleton_sublist.mpr answered)⟩
      · exact .inr ⟨id', order.trans (List.sublist_append_right l m)⟩
  | looked | released => simp at answered
  | found known =>
    subst start
    simp only [List.mem_cons, reduceCtorEq, List.not_mem_nil, or_false, false_or] at answered
    cases answered
    rcases Provider.holding_of_found known with stored | ⟨-, registered⟩
    · exact .inl (Capability.mem_of_lookup stored)
    · rw [Registry.isSingleton_of_find? registered] at single
      cases single
  | refused unknown => simp at answered
  | @made _ _ n l k lifetime f result toMake inside lower ih =>
    subst start
    rw [Provider.isReleased_accept] at live
    obtain ⟨rfl, -⟩ := inside.holding rfl keepable live
    by_cases own : id = n
    · subst own
      have mine := inside.own_of_mem_made answered rfl
      rw [accept_eq toMake lower id] at mine ⊢
      cases result with
      | error e => simp [Mark.ending, Except.mapError] at mine
      | ok u =>
        simp only [Mark.ending, Except.mapError, List.cons_append, List.nil_append, List.mem_cons,
          reduceCtorEq, Mark.answered.injEq, Except.ok.injEq, true_and, List.not_mem_nil, or_false,
          false_or] at mine
        obtain ⟨rfl, rfl⟩ := mine
        refine .inr ⟨id, List.Sublist.trans ?_ (List.sublist_append_right _ _)⟩
        exact ((List.Sublist.refl _).cons _).cons_cons _
    · have among := mem_of_mem_made answered (by simpa [Mark.id?] using own)
      rcases ih rfl keepable live among with before | ⟨id', order⟩
      · exact .inl before
      · refine .inr ⟨id', order.trans ?_⟩
        exact (List.sublist_append_right _ l).trans (List.sublist_append_left _ _)

end Chronicle

/-! ## Whole runs -/

/-- The capabilities of the singletons that were made according to a log. -/
def succeeded (r : Registry V F) (log : List (Mark V F)) : Set Capability :=
  {key | r.isSingleton key = true ∧ ∃ id v, .made id key (.ok v) ∈ log}

theorem ncard_succeeded {r : Registry V F} {log : List (Mark V F)}
    (nodup : ((successes r log).map Prod.fst).Nodup) :
    (succeeded r log).ncard = (successes r log).length := by
  have same : succeeded r log = (((successes r log).map Prod.fst).toFinset : Set Capability) := by
    ext key
    simp only [succeeded, Set.mem_ofPred_eq, List.coe_toFinset, List.mem_map]
    constructor
    · rintro ⟨single, id, v, made⟩
      exact ⟨(key, v), mem_successes_iff.mpr ⟨single, id, made⟩, rfl⟩
    · rintro ⟨⟨k, v⟩, made, rfl⟩
      obtain ⟨single, id, hm⟩ := mem_successes_iff.mp made
      exact ⟨single, id, v, hm⟩
  rw [same, Set.ncard_coe_finset, List.toFinset_card_of_nodup nodup, List.length_map]

/-- What a provider shows after the marks of a log: what is registered, as ever, and how many
singletons have been made. -/
structure Provider.Shows (r : Registry V F) (log : List (Mark V F)) (p : Provider V F) : Prop where
  /-- The provider has not been released, and keeps as many singletons as factories have succeeded. -/
  dump : p.dump = .record "ServiceProvider" [("registrations", .nat r.size),
    ("cached_singletons", .nat (succeeded r log).ncard)]
  contains : ∀ key, p.contains key = r.contains key
  types : p.types = .ok r.types
  size : p.size = r.size

theorem Provider.shows_holding {r : Registry V F} {log : List (Mark V F)}
    (nodup : ((successes r log).map Prod.fst).Nodup) :
    (Provider.holding r (successes r log)).Shows r log where
  dump := by rw [ncard_succeeded nodup]; rfl
  contains _ := rfl
  types := rfl
  size := rfl

/-- A log in which everything goes as registered, up to a provider that has not been released. -/
structure Faithful (r : Registry V F) (log : List (Mark V F)) (p : Provider V F) : Prop where
  /-- The number of a resolution is the place at which it begins. -/
  asked_at : ∀ {id key cached}, .asked id key cached ∈ log → log[id]? = some (.asked id key cached)
  /-- Every call and every answer belongs to a resolution that was asked for. -/
  asked : ∀ {m id}, m ∈ log → m.id? = some id →
    ∃ key cached, .asked id key cached ∈ log ∧ m.key? = some key
  /-- A fixed service is found, and one that is kept too. For a singleton that is not kept, and for
  every transient service, one factory is called, and the answer is what it has made. -/
  told : ∀ {id key cached}, .asked id key cached ∈ log → Told r id key cached (account id log)
  /-- A factory of a singleton is not called after it has succeeded. -/
  last_call : ∀ {key}, r.isSingleton key = true →
    log.Pairwise fun m m' => ∀ id id' v, m = .made id key (.ok v) → m' ≠ .called id' key
  /-- A factory of a singleton succeeds at most once. -/
  one_success : ∀ {key}, r.isSingleton key = true →
    log.Pairwise fun m m' => ∀ id id' v v', m = .made id key (.ok v) → m' ≠ .made id' key (.ok v')
  /-- Every answer with a singleton comes after that singleton was made. -/
  made_before : ∀ {id key v}, r.isSingleton key = true → .answered id key (.ok v) ∈ log →
    ∃ id', [.made id' key (.ok v), .answered id key (.ok v)].Sublist log
  /-- Every answer with a singleton is the one that was made. -/
  one_value : ∀ {id id' key v v'}, r.isSingleton key = true → .made id key (.ok v) ∈ log →
    .answered id' key (.ok v') ∈ log → v' = v
  /-- The provider shows what was made until someone looked at it. -/
  seen : ∀ {i : Nat} {x : Provider V F}, log[i]? = some (.looked x) → x.Shows r (log.take i)
  shows_end : p.Shows r log

theorem one_success_of_nodup {r : Registry V F} {log : List (Mark V F)} {key : Capability}
    (nodup : ((successes r log).map Prod.fst).Nodup) (single : r.isSingleton key = true) :
    log.Pairwise fun m m' => ∀ id id' v v', m = .made id key (.ok v) → m' ≠ .made id' key (.ok v') := by
  have apart := List.pairwise_filterMap.mp (List.pairwise_map.mp nodup)
  refine apart.imp ?_
  rintro m m' different id id' v v' rfl rfl
  exact different (key, v) (by simp [Mark.success?, single]) (key, v') (by simp [Mark.success?, single])
    rfl

/-- Whatever is done with a provider whose factories are acyclic, as long as its services are not
released: every resolution is answered as registered, the factory of a singleton is called until it
has succeeded and never again, and nothing else can be seen to change but the number of singletons
that are kept. -/
theorem resolutions_faithful (c : Cookbook E V F) (client : Cookbook.Client E V F α)
    (r : Registry V F) (around : E)
    (live : (c.serve client (.ofRegistry r around)).2.provider.isReleased = false) :
    Faithful r (c.serve client (.ofRegistry r around)).2.log
      (c.serve client (.ofRegistry r around)).2.provider := by
  have chronicle := chronicle_serve c client r around
  generalize (c.serve client (.ofRegistry r around)).2 = w at chronicle live
  have start : Provider.ofRegistry r = .holding r ([] : List (Capability × V)) := rfl
  have keepable : Keepable r ([] : List (Capability × V)) := ⟨List.nodup_nil, by simp⟩
  obtain ⟨provider, final⟩ := chronicle.holding start keepable live
  rw [List.nil_append] at provider final
  have made_before : ∀ {id key v}, r.isSingleton key = true → .answered id key (.ok v) ∈ w.log →
      ∃ id', [.made id' key (.ok v), .answered id key (.ok v)].Sublist w.log := by
    intro id key v single answered
    exact (chronicle.made_before start keepable live single answered).resolve_left List.not_mem_nil
  exact {
    asked_at := fun asked => chronicle.asked_at asked
    asked := fun hm hid => chronicle.asked_of_id hm hid
    told := fun asked => chronicle.told start keepable live asked
    last_call := fun single => chronicle.not_called_after start keepable live single
    one_success := fun single => one_success_of_nodup final.nodup single
    made_before := made_before
    one_value := by
      intro id id' key v v' single made answered
      obtain ⟨id'', order⟩ := made_before single answered
      have made' := order.subset List.mem_cons_self
      exact value_unique final.nodup (mem_successes_iff.mpr ⟨single, id'', made'⟩)
        (mem_successes_iff.mpr ⟨single, id, made⟩)
    seen := by
      intro i x looked
      rw [chronicle.seen start keepable live looked, List.nil_append]
      refine Provider.shows_holding (final.nodup.sublist ?_)
      exact ((List.take_sublist i w.log).filterMap _).map _
    shows_end := by
      rw [provider]
      exact Provider.shows_holding final.nodup }

/-! ## A bakery -/

namespace Bakery

def flour : Capability := ⟨"flour"⟩
def dough : Capability := ⟨"dough"⟩
def oven : Capability := ⟨"oven"⟩
def bread : Capability := ⟨"bread"⟩

/-- Bread is baked of dough, and dough is made of flour. -/
def rank (key : Capability) : Nat := if key = bread then 2 else if key = dough then 1 else 0

/-- One oven and one loaf of bread, but new dough each time. -/
def registry : Registry String Unit :=
  ⟨[(flour, .fixed "flour"), (dough, .transient ()), (oven, .singleton ()), (bread, .singleton ())]⟩

/-- What a service is made of, or why it is not made. -/
def mixed (what : String) (parts : List (Except ResolveError String)) : Except ResolveError String :=
  (parts.mapM id).map fun parts => what ++ toString parts

/-- The oven does not light at the first attempt. -/
def cookbook : Cookbook Nat String Unit where
  rank := rank
  recipe key _ :=
    if baked : key = bread then
      .get oven (by rw [baked]; decide) fun o =>
      .get dough (by rw [baked]; decide) fun d => .done (mixed "bread" [o, d])
    else if kneaded : key = dough then
      .get flour (by rw [kneaded]; decide) fun f => .done (mixed "dough" [f])
    else
      .act (· + 1) fun attempts =>
      .done (if attempts = 0 then .error (.factory "oven" "cold") else .ok "oven")

/-- Asks for bread until there is some, and once more. -/
def customer : Cookbook.Client Nat String Unit (Option String) :=
  .tryGet bread trivial fun _ =>
  .tryGet bread trivial fun _ =>
  .get dough trivial fun _ =>
  .look fun _ =>
  .tryGet bread trivial fun loaf => .done loaf

end Bakery

theorem bakery_faithful :
    let w := (Bakery.cookbook.serve Bakery.customer (.ofRegistry Bakery.registry 0)).2
    w.provider.isReleased = false ∧ Faithful Bakery.registry w.log w.provider :=
  ⟨by decide +kernel,
    resolutions_faithful Bakery.cookbook Bakery.customer Bakery.registry 0 (by decide +kernel)⟩

end HostBench
