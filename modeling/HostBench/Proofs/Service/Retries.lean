/-
  Resolutions that fail, and are tried again. The factories are acyclic, and any of them may fail on
  some of its calls and succeed on others.

  What a resolution comes to is said once, with the marks that it leaves (`Got`); all else follows
  from what is kept. A failed resolution leaves what was kept and adds the singletons that were made
  in the course of it (`Got.spares`); so it can be tried again, and that calls the factory again but
  none whose singleton is kept (`Got.retries`). However often a resolution is tried, no singleton is
  made twice on the way (`Chronicle.creations_le_one`). `retryable_of_failed_get` puts this together
  for a provider with any history.
-/
import HostBench.Proofs.Service.Offers
import HostBench.Proofs.Service.Orders
import HostBench.Proofs.Service.Singletons

namespace HostBench

variable {E V F α : Type}

/-! ## What factories return -/

/-- The singleton that is kept for a capability. -/
def Provider.cached (p : Provider V F) (key : Capability) : Option V :=
  p.services.bind fun s => key.lookup s.singletons

/-- What the factory of a capability has returned. -/
def Mark.result? (key : Capability) : Mark V F → Option (Except ResolveError V)
  | .made _ k result => if k = key then some result else none
  | _ => none

/-- What the factory of a capability has returned according to a log, each time. -/
def results (key : Capability) (log : List (Mark V F)) : List (Except ResolveError V) :=
  log.filterMap (Mark.result? key)

/-- How often the factory of a capability has succeeded. -/
def creations (key : Capability) (log : List (Mark V F)) : Nat :=
  (results key log).countP (·.isOk)

theorem Mark.result?_eq_some_iff {m : Mark V F} {key : Capability}
    {result : Except ResolveError V} :
    m.result? key = some result ↔ ∃ id, m = .made id key result := by
  cases m with
  | made id k own =>
    by_cases same : k = key
    · simp [Mark.result?, same]
    · simp [Mark.result?, same]
  | _ => simp [Mark.result?]

theorem mem_results {key : Capability} {log : List (Mark V F)} {result : Except ResolveError V} :
    result ∈ results key log ↔ ∃ id, .made id key result ∈ log := by
  simp only [results, List.mem_filterMap, Mark.result?_eq_some_iff]
  constructor
  · rintro ⟨m, hm, id, rfl⟩
    exact ⟨id, hm⟩
  · rintro ⟨id, hm⟩
    exact ⟨_, hm, id, rfl⟩

theorem results_append (key : Capability) (l m : List (Mark V F)) :
    results key (l ++ m) = results key l ++ results key m := List.filterMap_append

theorem creations_append (key : Capability) (l m : List (Mark V F)) :
    creations key (l ++ m) = creations key l + creations key m := by
  rw [creations, results_append, List.countP_append]
  rfl

theorem results_ending (id : Nat) (key : Capability) (lifetime : ServiceLifetime)
    (result answer : Except ResolveError V) :
    results key (Mark.ending id key lifetime result answer : List (Mark V F)) = [result] := by
  cases result <;> simp [Mark.ending, results, Mark.result?]

/-- A factory returns nothing where there are no marks of its capability. -/
theorem results_eq_nil {key : Capability} {log : List (Mark V F)}
    (silent : ∀ m ∈ log, m.key? ≠ some key) : results key log = [] := by
  refine List.filterMap_eq_nil_iff.mpr fun m hm => ?_
  cases returned : m.result? key with
  | none => rfl
  | some result =>
    obtain ⟨id, rfl⟩ := Mark.result?_eq_some_iff.mp returned
    exact absurd rfl (silent _ hm)

theorem calls_eq_zero {key : Capability} {log : List (Mark V F)}
    (uncalled : ∀ id, .called id key ∉ log) : calls key log = 0 := by
  refine List.countP_eq_zero.mpr fun m hm called => ?_
  cases m with
  | called id k =>
    obtain rfl : k = key := by simpa [Mark.isCall] using called
    exact uncalled id hm
  | _ => cases called

theorem cached_holding (r : Registry V F) (kept : List (Capability × V)) (key : Capability) :
    (Provider.holding r kept : Provider V F).cached key = key.lookup kept := rfl

/-- What is kept, each once, is cached. -/
theorem cached_eq_some_iff {r : Registry V F} {kept : List (Capability × V)}
    (keepable : Keepable r kept) {key : Capability} {v : V} :
    (Provider.holding r kept : Provider V F).cached key = some v ↔ (key, v) ∈ kept :=
  Capability.lookup_eq_some_iff keepable.nodup

namespace Chronicle

variable {c : Cookbook E V F} {p q : Provider V F} {n : Nat} {l : List (Mark V F)}
  {r : Registry V F} {kept : List (Capability × V)} {key : Capability}

/-- A factory that returns was called. -/
theorem called_of_made (h : Chronicle c.Lower p n l q) (start : p = .holding r kept)
    (keepable : Keepable r kept) (live : q.isReleased = false) {id : Nat}
    {result : Except ResolveError V} (made : .made id key result ∈ l) : .called id key ∈ l := by
  have numbered : (Mark.made id key result : Mark V F).id? = some id := rfl
  obtain ⟨k, cached, asked, about⟩ := h.asked_of_id made numbered
  cases about
  have told := h.told start keepable live asked
  have own : .made id key result ∈ account id l :=
    List.mem_filter.mpr ⟨made, beq_self_eq_true _⟩
  generalize marks : account id l = a at told own
  have called : .called id key ∈ a := by
    cases told with
    | unregistered | fixed | kept => simp at own
    | singleton | transient => simp
  exact List.mem_of_mem_filter (marks ▸ called)

/-- After its success a factory of a singleton returns nothing more. -/
theorem not_made_after (h : Chronicle c.Lower p n l q) (start : p = .holding r kept)
    (keepable : Keepable r kept) (live : q.isReleased = false) (single : r.isSingleton key = true) :
    l.Pairwise fun m m' =>
      ∀ id id' v result, m = .made id key (.ok v) → m' ≠ .made id' key result := by
  induction h generalizing kept with
  | nothing | looked | released | found | refused => simp
  | followed first second ih ih' =>
    have live' := second.live_of_live live
    obtain ⟨middle, keepable'⟩ := first.holding start keepable live'
    refine List.pairwise_append.mpr ⟨ih start keepable live', ih' middle keepable' live, ?_⟩
    rintro m hm m' hm' id id' v result rfl rfl
    have called := second.called_of_made middle keepable' live hm'
    refine second.not_called middle keepable' live ?_ id' called
    rw [List.map_append, List.mem_append]
    exact .inr (List.mem_map_of_mem (mem_successes_iff.mpr ⟨single, id, hm⟩))
  | @made _ _ n l k lifetime f result toMake inside lower ih =>
    subst start
    rw [Provider.isReleased_accept] at live
    refine List.pairwise_append.mpr
      ⟨List.pairwise_append.mpr ⟨by simp, ih rfl keepable live, ?_⟩, ?_, ?_⟩
    · rintro m hm m' - id id' v own rfl
      simp at hm
    · cases result <;> simp [Mark.ending]
    · -- inside of a call of a factory no other of its calls returns
      rintro m hm m' hm' id id' v own rfl rfl
      obtain rfl : key = k := Option.some.inj (Mark.of_mem_ending hm').2
      rcases List.mem_append.mp hm with before | inner
      · simp at before
      · exact Nat.lt_irrefl _ (lower _ inner key rfl)

/-- Only the last thing that a factory of a singleton returns can be a success. -/
theorem failed_before (h : Chronicle c.Lower p n l q) (start : p = .holding r kept)
    (keepable : Keepable r kept) (live : q.isReleased = false) (single : r.isSingleton key = true) :
    (results key l).Pairwise fun x _ => ∀ v, x ≠ .ok v := by
  refine List.pairwise_filterMap.mpr ((h.not_made_after start keepable live single).imp ?_)
  rintro m m' apart x returned y returned' v rfl
  obtain ⟨i, rfl⟩ := Mark.result?_eq_some_iff.mp returned
  obtain ⟨j, rfl⟩ := Mark.result?_eq_some_iff.mp returned'
  exact apart i j v y rfl rfl

theorem creations_le_one (h : Chronicle c.Lower p n l q) (start : p = .holding r kept)
    (keepable : Keepable r kept) (live : q.isReleased = false) (single : r.isSingleton key = true) :
    creations key l ≤ 1 := by
  have order := h.failed_before start keepable live single
  unfold creations
  rcases List.eq_nil_or_concat' (results key l) with none | ⟨before, last, split⟩
  · simp [none]
  · rw [split] at order ⊢
    have failed : before.countP (·.isOk) = 0 := by
      refine List.countP_eq_zero.mpr fun x hx ok => ?_
      cases x with
      | error e => cases ok
      | ok v =>
        exact (List.pairwise_append.mp order).2.2 _ hx last (List.mem_singleton.mpr rfl) v rfl
    rw [List.countP_append, failed, Nat.zero_add]
    exact List.countP_le_length

/-- What is kept is not made again. -/
theorem results_of_kept (h : Chronicle c.Lower p n l q) (start : p = .holding r kept)
    (keepable : Keepable r kept) (live : q.isReleased = false) (known : key ∈ kept.map Prod.fst) :
    results key l = [] := by
  refine List.eq_nil_iff_forall_not_mem.mpr fun result returned => ?_
  obtain ⟨id, made⟩ := mem_results.mp returned
  exact h.not_called start keepable live known id (h.called_of_made start keepable live made)

/-- Nothing is kept for a capability whose factory has failed in the end. -/
theorem not_kept_of_failed (h : Chronicle c.Lower p n l q) (start : p = .holding r kept)
    (keepable : Keepable r kept) (live : q.isReleased = false) {e : ResolveError}
    (last : (results key l).getLast? = some (.error e)) :
    key ∉ (kept ++ successes r l).map Prod.fst := by
  rw [List.map_append, List.mem_append]
  rintro (before | among)
  · rw [h.results_of_kept start keepable live before] at last
    cases last
  · obtain ⟨⟨k, v⟩, success, rfl⟩ := List.mem_map.mp among
    obtain ⟨single, id, made⟩ := mem_successes_iff.mp success
    have order := h.failed_before start keepable live single
    have returned := mem_results.mpr ⟨id, made⟩
    obtain ⟨before, split⟩ := List.getLast?_eq_some_iff.mp last
    rw [split] at order returned
    rcases List.mem_append.mp returned with earlier | same
    · exact (List.pairwise_append.mp order).2.2 _ earlier _ (List.mem_singleton.mpr rfl) v rfl
    · cases List.mem_singleton.mp same

end Chronicle

/-! ## What a resolution comes to -/

/-- What resolving a capability comes to: the answer, the marks and the provider after it. -/
inductive Got (c : Cookbook E V F) (key : Capability) (p : Provider V F) (n : Nat) :
    Except ResolveError V → List (Mark V F) → Provider V F → Prop
  | found {v : V} (known : p.lookup key = .found v) :
      Got c key p n (.ok v) [.asked n key (p.keeps key), .answered n key (.ok v)] p
  | refused {e : ResolveError} (unknown : p.lookup key = .refused e) :
      Got c key p n (.error e) [.asked n key (p.keeps key), .answered n key (.error e)] p
  | made {lifetime : ServiceLifetime} {f : F} {result : Except ResolveError V} {q : Provider V F}
      {l : List (Mark V F)} (toMake : p.lookup key = .toMake lifetime f)
      (inside : Chronicle c.Lower p (n + 2) l q)
      (lower : ∀ m ∈ l, ∀ k, m.key? = some k → c.Lower k key) :
      Got c key p n (q.accept key lifetime result).1
        ([.asked n key (p.keeps key), .called n key] ++ l ++
          Mark.ending n key lifetime result (q.accept key lifetime result).1)
        (q.accept key lifetime result).2

theorem Cookbook.got_get (c : Cookbook E V F) (key : Capability) (w : Workshop E V F) :
    ∃ l, (c.get key w).2.log = w.log ++ l ∧
      Got c key w.provider w.log.length (c.get key w).1 l (c.get key w).2.provider := by
  rw [get]
  cases looked : w.provider.lookup key with
  | found v =>
    rw [Workshop.resolve_of_found looked]
    exact ⟨_, rfl, .found looked⟩
  | refused e =>
    rw [Workshop.resolve_of_refused looked]
    exact ⟨_, rfl, .refused looked⟩
  | toMake lifetime f =>
    obtain ⟨l, grown, inside, lower⟩ := Recipe.leads_run (fun k => c.rank k < c.rank key)
      (fun k allowed w => (c.leads_get k w).mono fun _ bound => Nat.lt_of_le_of_lt bound allowed)
      (c.recipe key f)
      (w.noting [.asked w.log.length key (w.provider.keeps key), .called w.log.length key])
    have two : (w.noting [.asked w.log.length key (w.provider.keeps key),
        .called w.log.length key]).log.length = w.log.length + 2 := List.length_append
    rw [two] at inside
    rw [Workshop.resolve_of_toMake looked rfl]
    refine ⟨_, ?_, .made looked inside lower⟩
    show _ ++ _ = _
    rw [grown]
    simp only [Workshop.noting, List.append_assoc]

namespace Got

variable {c : Cookbook E V F} {key : Capability} {p q : Provider V F} {n : Nat}
  {answer : Except ResolveError V} {l : List (Mark V F)} {r : Registry V F}
  {kept : List (Capability × V)}

/-- Inside of a call of a factory it is not called again. -/
theorem silent {l : List (Mark V F)} (lower : ∀ m ∈ l, ∀ k, m.key? = some k → c.Lower k key) :
    ∀ m ∈ l, m.key? ≠ some key := fun m hm about => Nat.lt_irrefl _ (lower m hm key about)

/-- A resolution that calls a factory calls it once. -/
theorem calls_made {l : List (Mark V F)} (lower : ∀ m ∈ l, ∀ k, m.key? = some k → c.Lower k key)
    {cached : Bool} {lifetime : ServiceLifetime} {result answer : Except ResolveError V} :
    calls key ([.asked n key cached, .called n key] ++ l ++
      Mark.ending n key lifetime result answer) = 1 := by
  have inside : calls key l = 0 := calls_eq_zero fun id called => silent lower _ called rfl
  rw [calls_append, calls_append, inside, calls_ending]
  simp [calls, Mark.isCall]

/-- It returns once, too. -/
theorem results_made {l : List (Mark V F)} (lower : ∀ m ∈ l, ∀ k, m.key? = some k → c.Lower k key)
    {cached : Bool} {lifetime : ServiceLifetime} {result answer : Except ResolveError V} :
    results key ([.asked n key cached, .called n key] ++ l ++
      Mark.ending n key lifetime result answer) = [result] := by
  rw [results_append, results_append, results_eq_nil (silent lower), results_ending]
  rfl

theorem chronicle (got : Got c key p n answer l q) : Chronicle c.Lower p n l q := by
  cases got with
  | found known => exact .found known
  | refused unknown => exact .refused unknown
  | made toMake inside lower => exact .made toMake inside lower

/-- A resolution that fails has not made what it was asked for, and keeps nothing for it. -/
theorem unmade_of_failed {e : ResolveError} (got : Got c key p n (.error e) l q)
    (start : p = .holding r kept) (keepable : Keepable r kept) (live : q.isReleased = false) :
    key.lookup (kept ++ successes r l) = none ∧ creations key l = 0 := by
  generalize failed : Except.error e = answer at got
  subst start
  cases got with
  | found known => cases failed
  | refused unknown =>
    refine ⟨?_, rfl⟩
    simpa [successes, Mark.success?, List.filterMap_cons] using
      (Provider.holding_of_refused unknown).1
  | @made lifetime f result q l toMake inside lower =>
    rw [Provider.isReleased_accept] at live
    obtain ⟨rfl, -⟩ := inside.holding rfl keepable live
    rw [Chronicle.accept_eq toMake lower n] at failed
    have fresh := Chronicle.still_fresh (r := r) (Provider.holding_of_toMake toMake).1 lower
    rw [Chronicle.successes_made]
    cases result with
    | ok v => cases failed
    | error own =>
      refine ⟨by simpa [successes, Mark.success?, List.filterMap_cons] using fresh, ?_⟩
      rw [creations, results_made lower]
      rfl

/-- A fixed service is always found. -/
theorem not_fixed_of_failed {e : ResolveError} (got : Got c key p n (.error e) l q)
    (start : p = .holding r kept) (v : V) : r.find? key ≠ some (.fixed v) := by
  generalize failed : Except.error e = answer at got
  subst start
  intro fixed
  cases got with
  | found known => cases failed
  | refused unknown => cases fixed.symm.trans (Provider.holding_of_refused unknown).2.1
  | made toMake inside lower =>
    rcases (Provider.holding_of_toMake toMake).2 with ⟨other, -⟩ | ⟨other, -⟩ <;>
      cases fixed.symm.trans other

end Got

/-! ## A failure -/

/-- What a failed resolution of a capability leaves, by the marks that it has added. -/
structure Spares (r : Registry V F) (key : Capability) (l : List (Mark V F)) (p q : Provider V F) :
    Prop where
  /-- Nothing is kept for the capability, -/
  itself : q.cached key = none
  /-- nor for any other whose factory has failed when it was called for the last time. -/
  failed : ∀ k e, (results k l).getLast? = some (.error e) → q.cached k = none
  /-- Each singleton that was made is kept. -/
  made : ∀ k v, r.isSingleton k = true → .ok v ∈ results k l → q.cached k = some v
  /-- What was kept before is kept. -/
  kept : ∀ k v, p.cached k = some v → q.cached k = some v
  /-- Nothing else is kept. -/
  only : ∀ k v, q.cached k = some v →
    p.cached k = some v ∨ r.isSingleton k = true ∧ .ok v ∈ results k l
  /-- What is registered is as before. -/
  registered : ∀ k, q.contains k = p.contains k

/-- What a resolution comes to for whose capability there is a factory, and nothing is kept. -/
structure Retries (r : Registry V F) (key : Capability) (answer : Except ResolveError V)
    (l : List (Mark V F)) (p q : Provider V F) : Prop where
  /-- The factory is called once, and the answer is what it returns. -/
  again : r.contains key = true → calls key l = 1 ∧
    ∃ result, results key l = [result] ∧ answer = result.mapError (·.through key) ∧
      (r.isSingleton key = true → q.cached key = result.toOption)
  /-- No factory is called for what is kept already. -/
  uncalled : ∀ k v, p.cached k = some v → calls k l = 0 ∧ q.cached k = some v

namespace Got

variable {c : Cookbook E V F} {key : Capability} {p q : Provider V F} {n : Nat}
  {answer : Except ResolveError V} {l : List (Mark V F)} {r : Registry V F}
  {kept : List (Capability × V)}

theorem spares {e : ResolveError} (got : Got c key p n (.error e) l q)
    (start : p = .holding r kept) (keepable : Keepable r kept) (live : q.isReleased = false) :
    Spares r key l p q := by
  have chronicle := got.chronicle
  have fresh := (got.unmade_of_failed start keepable live).1
  obtain ⟨rfl, keepable'⟩ := chronicle.holding start keepable live
  subst start
  constructor
  case itself => exact fresh
  case failed =>
    intro k e last
    exact Capability.lookup_eq_none_iff.mpr (chronicle.not_kept_of_failed rfl keepable live last)
  case made =>
    intro k v single returned
    obtain ⟨id, made⟩ := mem_results.mp returned
    exact (cached_eq_some_iff keepable').mpr
      (List.mem_append_right _ (mem_successes_iff.mpr ⟨single, id, made⟩))
  case kept =>
    intro k v known
    exact (cached_eq_some_iff keepable').mpr
      (List.mem_append_left _ ((cached_eq_some_iff keepable).mp known))
  case only =>
    intro k v known
    rcases List.mem_append.mp ((cached_eq_some_iff keepable').mp known) with before | among
    · exact .inl ((cached_eq_some_iff keepable).mpr before)
    · obtain ⟨single, made⟩ := mem_successes_iff.mp among
      exact .inr ⟨single, mem_results.mpr made⟩
  case registered => exact fun _ => rfl

theorem retries (got : Got c key p n answer l q) (start : p = .holding r kept)
    (keepable : Keepable r kept) (live : q.isReleased = false) (fresh : key.lookup kept = none)
    (factory : ∀ v, r.find? key ≠ some (.fixed v)) : Retries r key answer l p q := by
  have chronicle := got.chronicle
  constructor
  case again =>
    intro registered
    subst start
    cases got with
    | found known =>
      rcases Provider.holding_of_found known with stored | ⟨-, fixed⟩
      · rw [fresh] at stored
        cases stored
      · exact absurd fixed (factory _)
    | refused unknown =>
      have absent := (Provider.holding_of_refused unknown).2.1
      simp [Registry.contains, absent] at registered
    | @made lifetime f result q l toMake inside lower =>
      rw [Provider.isReleased_accept] at live
      obtain ⟨rfl, keepable'⟩ := inside.holding rfl keepable live
      rw [Chronicle.accept_eq toMake lower n]
      refine ⟨calls_made lower, result, results_made lower, rfl, fun single => ?_⟩
      have after := Chronicle.still_fresh (r := r) (Provider.holding_of_toMake toMake).1 lower
      rw [cached_holding, Capability.lookup_append, after, Option.none_or]
      cases result with
      | error e => rfl
      | ok v => simp [successes, Mark.success?, single, Capability.lookup, Except.toOption]
  case uncalled =>
    intro k v known
    obtain ⟨rfl, keepable'⟩ := chronicle.holding start keepable live
    subst start
    have before := (cached_eq_some_iff keepable).mp known
    refine ⟨calls_eq_zero fun id => ?_, ?_⟩
    · exact chronicle.not_called rfl keepable live (List.mem_map_of_mem before) id
    · exact (cached_eq_some_iff keepable').mpr (List.mem_append_left _ before)

end Got

/-! ## Many failures -/

/-- Resolves a capability again and again. What lies around the provider may be changed before each
attempt. -/
def Cookbook.attempts (c : Cookbook E V F) (key : Capability) :
    List (E → E) → Workshop E V F → List (Except ResolveError V) × Workshop E V F
  | [], w => ([], w)
  | change :: rest, w =>
    let first := c.get key { w with around := change w.around }
    (first.1 :: (c.attempts key rest first.2).1, (c.attempts key rest first.2).2)

/-- However often a resolution is tried, it leads on. -/
theorem Cookbook.leads_attempts (c : Cookbook E V F) (key : Capability) (changes : List (E → E))
    (w : Workshop E V F) :
    Workshop.Leads c.Lower (fun _ => True) w (c.attempts key changes w).2 := by
  induction changes generalizing w with
  | nil => exact .refl w
  | cons change rest ih =>
    have first : Workshop.Leads c.Lower (fun _ => True) { w with around := change w.around }
        (c.get key { w with around := change w.around }).2 :=
      (c.leads_get key { w with around := change w.around }).mono fun _ _ => trivial
    exact Workshop.Leads.trans (w := w) first (ih _)

/-- In attempts that fail nothing is made of what was asked for. -/
theorem Cookbook.unmade_of_attempts {c : Cookbook E V F} {key : Capability} {r : Registry V F}
    (changes : List (E → E)) {w : Workshop E V F} {kept : List (Capability × V)}
    (start : w.provider = .holding r kept) (keepable : Keepable r kept)
    (live : (c.attempts key changes w).2.provider.isReleased = false)
    (failed : ∀ answer ∈ (c.attempts key changes w).1, ∃ e, answer = .error e)
    {l : List (Mark V F)} (grown : (c.attempts key changes w).2.log = w.log ++ l) :
    creations key l = 0 := by
  induction changes generalizing w kept l with
  | nil =>
    obtain rfl : l = [] := List.append_cancel_left (grown.symm.trans (List.append_nil _).symm)
    rfl
  | cons change rest ih =>
    obtain ⟨m, log_eq, got⟩ := c.got_get key { w with around := change w.around }
    obtain ⟨m', log_eq', chronicle, -⟩ :=
      c.leads_attempts key rest (c.get key { w with around := change w.around }).2
    have live' := chronicle.live_of_live live
    obtain ⟨e, error⟩ := failed _ List.mem_cons_self
    rw [error] at got
    obtain ⟨provider, keepable'⟩ := got.chronicle.holding start keepable live'
    have later := ih provider keepable' live
      (fun answer among => failed answer (List.mem_cons_of_mem _ among)) log_eq'
    have whole : l = m ++ m' := by
      have same : w.log ++ l = w.log ++ (m ++ m') := by
        rw [← grown, ← List.append_assoc, ← log_eq]
        exact log_eq'
      exact List.append_cancel_left same
    rw [whole, creations_append, later, (got.unmade_of_failed start keepable live').2]

/-- What was made in many failed attempts to resolve a capability. -/
structure Spent (r : Registry V F) (key : Capability) (l : List (Mark V F)) (p : Provider V F) :
    Prop where
  /-- Each singleton was made once at most. -/
  once : ∀ k, r.isSingleton k = true → creations k l ≤ 1
  /-- What was kept was not made again. -/
  never : ∀ k v, p.cached k = some v → creations k l = 0
  /-- What was asked for was not made. -/
  itself : creations key l = 0

/-- What is to be said of a resolution that fails. -/
structure Cookbook.Retryable (c : Cookbook E V F) (r : Registry V F) (key : Capability)
    (w : Workshop E V F) : Prop where
  spares : ∃ l, (c.get key w).2.log = w.log ++ l ∧
    Spares r key l w.provider (c.get key w).2.provider
  /-- It can be tried again, whatever lies around the provider by then. -/
  retries : ∀ around w', w' = { (c.get key w).2 with around := around } →
    (c.get key w').2.provider.isReleased = false →
    ∃ l, (c.get key w').2.log = w'.log ++ l ∧
      Retries r key (c.get key w').1 l w'.provider (c.get key w').2.provider
  /-- It can be tried as often as one likes. -/
  spent : ∀ changes, (c.attempts key changes w).2.provider.isReleased = false →
    (∀ answer ∈ (c.attempts key changes w).1, ∃ e, answer = .error e) →
    ∃ l, (c.attempts key changes w).2.log = w.log ++ l ∧ Spent r key l w.provider

/-- **Failures can be retried.** Whatever was done before with a provider that has not been released:
a resolution that fails keeps all that was kept and made on the way and nothing else, and so does each
further attempt, which calls the factory again and makes nothing that is kept. -/
theorem retryable_of_failed_get (c : Cookbook E V F) (client : Cookbook.Client E V F α)
    (r : Registry V F) (around : E) (key : Capability) {e : ResolveError}
    (failed : (c.get key (c.serve client (.ofRegistry r around)).2).1 = .error e)
    (live : (c.get key (c.serve client (.ofRegistry r around)).2).2.provider.isReleased = false) :
    c.Retryable r key (c.serve client (.ofRegistry r around)).2 := by
  have before := chronicle_serve c client r around
  generalize (c.serve client (.ofRegistry r around)).2 = w at before failed live
  obtain ⟨l, log_eq, got⟩ := c.got_get key w
  rw [failed] at got
  have fresh : Keepable r [] := ⟨List.nodup_nil, by simp⟩
  obtain ⟨start, keepable⟩ := before.holding rfl fresh (got.chronicle.live_of_live live)
  rw [List.nil_append] at start keepable
  obtain ⟨provider, keepable'⟩ := got.chronicle.holding start keepable live
  constructor
  case spares => exact ⟨l, log_eq, got.spares start keepable live⟩
  case retries =>
    rintro around' w' rfl live'
    obtain ⟨l', log_eq', got'⟩ := c.got_get key { (c.get key w).2 with around := around' }
    exact ⟨l', log_eq', got'.retries provider keepable' live'
      (got.unmade_of_failed start keepable live).1 (got.not_fixed_of_failed start)⟩
  case spent =>
    intro changes live' all
    obtain ⟨l', log_eq', chronicle, -⟩ := c.leads_attempts key changes w
    refine ⟨l', log_eq', ?_, ?_, c.unmade_of_attempts changes start keepable live' all log_eq'⟩
    · intro k single
      exact chronicle.creations_le_one start keepable live' single
    · intro k v known
      rw [start] at known
      have among := List.mem_map_of_mem (f := Prod.fst) ((cached_eq_some_iff keepable).mp known)
      rw [creations, chronicle.results_of_kept start keepable live' among]
      rfl

/-! ## A foundry -/

namespace Foundry

def crucible : Capability := ⟨"crucible"⟩
def fire : Capability := ⟨"fire"⟩
def bell : Capability := ⟨"bell"⟩

/-- One crucible and one bell, but a new fire each time. -/
def registry : Registry String Unit :=
  ⟨[(crucible, .singleton ()), (fire, .transient ()), (bell, .singleton ())]⟩

/-- The crucible is there before the fire is lit, and the fire goes out the first two times. -/
def cookbook : Cookbook Nat String Unit where
  rank key := if key = bell then 1 else 0
  recipe key _ :=
    if cast : key = bell then
      .get crucible (by rw [cast]; decide) fun pot =>
      .get fire (by rw [cast]; decide) fun heat =>
      .done (do return "bell of " ++ (← pot) ++ " and " ++ (← heat))
    else if key = fire then
      .act (· + 1) fun fires =>
      .done (if fires < 2 then .error (.factory "fire" "went out") else .ok "fire")
    else .done (.ok "crucible")

/-- Looks whether there is a fire. -/
def founder : Cookbook.Client Nat String Unit Unit := .tryGet fire trivial fun _ => .done ()

end Foundry

/-- The second fire goes out after the crucible was made. -/
theorem bell_retryable :
    let w := (Foundry.cookbook.serve Foundry.founder (.ofRegistry Foundry.registry 0)).2
    (Foundry.cookbook.get Foundry.bell w).1 =
        .error (.factory "bell" "factory for `fire` failed: factory for `fire` failed: went out") ∧
      (Foundry.cookbook.get Foundry.bell w).2.provider.isReleased = false ∧
      Foundry.cookbook.Retryable Foundry.registry Foundry.bell w := by
  have failed : (Foundry.cookbook.get Foundry.bell
      (Foundry.cookbook.serve Foundry.founder (.ofRegistry Foundry.registry 0)).2).1 =
        .error (.factory "bell" "factory for `fire` failed: factory for `fire` failed: went out") := by
    decide +kernel
  have live : (Foundry.cookbook.get Foundry.bell (Foundry.cookbook.serve Foundry.founder
      (.ofRegistry Foundry.registry 0)).2).2.provider.isReleased = false := by
    decide +kernel
  exact ⟨failed, live,
    retryable_of_failed_get Foundry.cookbook Foundry.founder Foundry.registry 0 Foundry.bell failed live⟩

end HostBench
