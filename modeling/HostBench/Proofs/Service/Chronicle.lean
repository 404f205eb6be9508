/-
  What can happen to a provider while recipes are followed, and which marks it leaves. `Chronicle`
  says it rule by rule, and every run of a recipe is a chronicle (`chronicle_serve`); what holds of
  all runs is then proved by induction on chronicles.

  A resolution takes its number from the length of the log at which it begins. So the numbers of a
  part of the log lie within that part (`Chronicle.id_bounds`), and each is given once
  (`Chronicle.asked_at`).
-/
import HostBench.Proofs.Service.Recipe

namespace HostBench

variable {E V F α : Type}

/-- How marks come after `n` others, and a provider becomes another one. While the factory of a
capability runs, only capabilities that are `below` it are resolved. -/
inductive Chronicle (below : Capability → Capability → Prop) :
    Provider V F → Nat → List (Mark V F) → Provider V F → Prop
  | nothing {p : Provider V F} {n : Nat} : Chronicle below p n [] p
  | followed {p q t : Provider V F} {n : Nat} {l m : List (Mark V F)} (first : Chronicle below p n l q)
      (second : Chronicle below q (n + l.length) m t) : Chronicle below p n (l ++ m) t
  | looked {p : Provider V F} {n : Nat} : Chronicle below p n [.looked p] p
  | released {p : Provider V F} {n : Nat} : Chronicle below p n [.released p.size] .released
  | found {p : Provider V F} {n : Nat} {key : Capability} {v : V} (known : p.lookup key = .found v) :
      Chronicle below p n [.asked n key (p.keeps key), .answered n key (.ok v)] p
  | refused {p : Provider V F} {n : Nat} {key : Capability} {e : ResolveError}
      (unknown : p.lookup key = .refused e) :
      Chronicle below p n [.asked n key (p.keeps key), .answered n key (.error e)] p
  | made {p q : Provider V F} {n : Nat} {l : List (Mark V F)} {key : Capability}
      {lifetime : ServiceLifetime} {f : F} {result : Except ResolveError V}
      (toMake : p.lookup key = .toMake lifetime f) (inside : Chronicle below p (n + 2) l q)
      (lower : ∀ m ∈ l, ∀ k, m.key? = some k → below k key) :
      Chronicle below p n
        ([.asked n key (p.keeps key), .called n key] ++ l ++
          Mark.ending n key lifetime result (q.accept key lifetime result).1)
        (q.accept key lifetime result).2

/-! ## Runs are chronicles -/

/-- From one workshop to the next the marks of a chronicle were left, all about capabilities that are
`within` bounds. -/
def Workshop.Leads (below : Capability → Capability → Prop) (within : Capability → Prop)
    (w w' : Workshop E V F) : Prop :=
  ∃ l, w'.log = w.log ++ l ∧ Chronicle below w.provider w.log.length l w'.provider ∧
    ∀ m ∈ l, ∀ k, m.key? = some k → within k

namespace Workshop.Leads

variable {below : Capability → Capability → Prop} {within : Capability → Prop} {w w' w'' : Workshop E V F}

theorem refl (w : Workshop E V F) : Leads below within w w :=
  ⟨[], (List.append_nil _).symm, .nothing, fun _ h => absurd h List.not_mem_nil⟩

theorem trans (first : Leads below within w w') (second : Leads below within w' w'') :
    Leads below within w w'' := by
  obtain ⟨l, grown, chronicle, bounds⟩ := first
  obtain ⟨m, grown', chronicle', bounds'⟩ := second
  rw [grown, List.length_append] at chronicle'
  refine ⟨l ++ m, by rw [grown', grown, List.append_assoc], .followed chronicle chronicle', ?_⟩
  intro x hx
  rcases List.mem_append.mp hx with hx | hx
  · exact bounds x hx
  · exact bounds' x hx

theorem mono {wider : Capability → Prop} (h : Leads below within w w')
    (wide : ∀ k, within k → wider k) : Leads below wider w w' := by
  obtain ⟨l, grown, chronicle, bounds⟩ := h
  exact ⟨l, grown, chronicle, fun m hm k hk => wide k (bounds m hm k hk)⟩

theorem unnumbered {m : Mark V F} {q : Provider V F} (about : m.key? = none)
    (chronicle : Chronicle below w.provider w.log.length [m] q) :
    Leads below within w { w.noting [m] with provider := q } := by
  refine ⟨[m], rfl, chronicle, ?_⟩
  intro x hx k hk
  rw [List.mem_singleton.mp hx, about] at hk
  cases hk

theorem looked (w : Workshop E V F) : Leads below within w (w.noting [.looked w.provider]) :=
  .unnumbered rfl .looked

theorem released (w : Workshop E V F) : Leads below within w
    { w.noting [.released w.provider.size] with provider := .released } := .unnumbered rfl .released

end Workshop.Leads

open Workshop (Leads)

/-- Following a recipe leads on, if its resolutions do. -/
theorem Recipe.leads_run {below : Capability → Capability → Prop} {within : Capability → Prop}
    (bounds : Capability → Prop)
    {resolve : (key : Capability) → within key → StateM (Workshop E V F) (Except ResolveError V)}
    (leads : ∀ key allowed w, Leads below bounds w (resolve key allowed w).2)
    (recipe : Recipe E V F within α) (w : Workshop E V F) :
    Leads below bounds w (recipe.run resolve w).2 := by
  induction recipe generalizing w with
  | done a => exact .refl w
  | act change next ih => exact ih w.around { w with around := change w.around }
  | look next ih => exact (Leads.looked w).trans (ih _ _)
  | get key allowed next ih => exact (leads key allowed w).trans (ih _ _)
  | release next ih => exact (Leads.released w).trans (ih _ _)

theorem Workshop.Leads.settled {below : Capability → Capability → Prop} {within : Capability → Prop}
    {key : Capability} {w : Workshop E V F} {cached : Bool} {answer : Except ResolveError V}
    (own : within key) (chronicle : Chronicle below w.provider w.log.length
      [.asked w.log.length key cached, .answered w.log.length key answer] w.provider) :
    Leads below within w
      (w.noting [.asked w.log.length key cached, .answered w.log.length key answer]) := by
  refine ⟨_, rfl, chronicle, ?_⟩
  intro m hm k hk
  simp only [List.mem_cons, List.not_mem_nil, or_false] at hm
  rcases hm with rfl | rfl <;> cases hk <;> exact own

theorem Mark.of_mem_ending {id : Nat} {key : Capability} {lifetime : ServiceLifetime}
    {result answer : Except ResolveError V} {m : Mark V F}
    (hm : m ∈ Mark.ending id key lifetime result answer) :
    m.id? = some id ∧ m.key? = some key := by
  cases result <;> simp only [ending, List.mem_cons, List.not_mem_nil, or_false] at hm
  · rcases hm with rfl | rfl <;> exact ⟨rfl, rfl⟩
  · rcases hm with rfl | rfl | rfl <;> exact ⟨rfl, rfl⟩

/-- A resolution leads on, if what its factory does leads on within what is below. -/
theorem Workshop.leads_resolve {below : Capability → Capability → Prop} {within : Capability → Prop}
    {make : F → StateM (Workshop E V F) (Except ResolveError V)} {key : Capability}
    {w : Workshop E V F} (own : within key)
    (inner : ∀ lifetime f, w.provider.lookup key = .toMake lifetime f →
      Leads below (fun k => below k key ∧ within k)
        (w.noting [.asked w.log.length key (w.provider.keeps key), .called w.log.length key])
        (make f (w.noting [.asked w.log.length key (w.provider.keeps key),
          .called w.log.length key])).2) :
    Leads below within w (resolve make key w).2 := by
  cases looked : w.provider.lookup key with
  | found v =>
    rw [resolve_of_found looked]
    exact .settled own (.found looked)
  | refused e =>
    rw [resolve_of_refused looked]
    exact .settled own (.refused looked)
  | toMake lifetime f =>
    obtain ⟨l, grown, chronicle, bounds⟩ := inner lifetime f looked
    have two : (w.noting [.asked w.log.length key (w.provider.keeps key),
        .called w.log.length key]).log.length = w.log.length + 2 := List.length_append
    rw [two] at chronicle
    cases made : make f (w.noting [.asked w.log.length key (w.provider.keeps key),
        .called w.log.length key]) with
    | mk result w' =>
      rw [made] at grown chronicle
      rw [resolve_of_toMake looked made]
      refine ⟨_, ?_, .made looked chronicle fun m hm k hk => (bounds m hm k hk).1, ?_⟩
      · show w'.log ++ _ = _
        rw [grown]
        simp only [Workshop.noting, List.append_assoc]
      · intro x hx k hk
        rcases List.mem_append.mp hx with hx | hx
        · rcases List.mem_append.mp hx with hx | hx
          · simp only [List.mem_cons, List.not_mem_nil, or_false] at hx
            rcases hx with rfl | rfl <;> cases hk <;> exact own
          · exact (bounds x hx k hk).2
        · rw [(Mark.of_mem_ending hx).2] at hk
          cases hk
          exact own

/-- What the factories of a cookbook resolve has a lower rank than their own capabilities. -/
def Cookbook.Lower (c : Cookbook E V F) (k key : Capability) : Prop := c.rank k < c.rank key

/-- A resolution leads on, with marks of capabilities that do not rank above its own. -/
theorem Cookbook.leads_get (c : Cookbook E V F) (key : Capability) (w : Workshop E V F) :
    Leads c.Lower (fun k => c.rank k ≤ c.rank key) w (c.get key w).2 := by
  rw [get]
  refine Workshop.leads_resolve (Nat.le_refl _) fun lifetime f _ => ?_
  have inner := Recipe.leads_run (fun k => c.rank k < c.rank key)
    (fun k allowed w => (leads_get c k w).mono fun _ bound => Nat.lt_of_le_of_lt bound allowed)
    (c.recipe key f)
    (w.noting [.asked w.log.length key (w.provider.keeps key), .called w.log.length key])
  exact inner.mono fun k lower => ⟨lower, Nat.le_of_lt lower⟩
termination_by c.rank key

/-- What a client does is a chronicle. -/
theorem chronicle_serve (c : Cookbook E V F) (client : Cookbook.Client E V F α) (r : Registry V F)
    (around : E) :
    Chronicle c.Lower (.ofRegistry r) 0 (c.serve client (.ofRegistry r around)).2.log
      (c.serve client (.ofRegistry r around)).2.provider := by
  obtain ⟨l, grown, chronicle, -⟩ := Recipe.leads_run (fun _ => True)
    (fun key _ w => (c.leads_get key w).mono fun _ _ => trivial) client (.ofRegistry r around)
  have whole : (c.serve client (.ofRegistry r around)).2.log = l := grown
  rw [whole]
  exact chronicle

/-! ## The numbers of resolutions -/

namespace Chronicle

variable {below : Capability → Capability → Prop} {p q : Provider V F} {n : Nat} {l : List (Mark V F)}

/-- What has been released stays so. -/
theorem isReleased_mono (h : Chronicle below p n l q) (gone : p.isReleased = true) :
    q.isReleased = true := by
  induction h with
  | nothing | looked | found | refused => exact gone
  | followed _ _ ih ih' => exact ih' (ih gone)
  | released => rfl
  | made _ _ _ ih => rw [Provider.isReleased_accept]; exact ih gone

theorem live_of_live (h : Chronicle below p n l q) (live : q.isReleased = false) :
    p.isReleased = false := by
  cases gone : p.isReleased with
  | false => rfl
  | true => rw [h.isReleased_mono gone] at live; cases live

/-- The marks of a part of the log carry numbers of that part. -/
theorem id_bounds (h : Chronicle below p n l q) :
    ∀ m ∈ l, ∀ id, m.id? = some id → n ≤ id ∧ id < n + l.length := by
  induction h with
  | nothing => exact fun m hm => absurd hm List.not_mem_nil
  | followed _ _ ih ih' =>
    intro m hm id hid
    rw [List.length_append]
    rcases List.mem_append.mp hm with hm | hm
    · have := ih m hm id hid
      omega
    · have := ih' m hm id hid
      omega
  | looked | released =>
    intro m hm id hid
    rw [List.mem_singleton.mp hm] at hid
    cases hid
  | found | refused =>
    intro m hm id hid
    simp only [List.mem_cons, List.not_mem_nil, or_false] at hm
    rcases hm with rfl | rfl <;> cases hid <;> simp
  | made _ _ _ ih =>
    intro m hm id hid
    simp only [List.length_append, List.length_cons, List.length_nil]
    rcases List.mem_append.mp hm with hm | hm
    · rcases List.mem_append.mp hm with hm | hm
      · simp only [List.mem_cons, List.not_mem_nil, or_false] at hm
        rcases hm with rfl | rfl <;> cases hid <;> omega
      · have := ih m hm id hid
        omega
    · rw [(Mark.of_mem_ending hm).1] at hid
      cases hid
      omega

/-- The number of a resolution is where it stands in the log. -/
theorem asked_at (h : Chronicle below p n l q) {id : Nat} {key : Capability} {cached : Bool}
    (asked : .asked id key cached ∈ l) : l[id - n]? = some (.asked id key cached) := by
  induction h with
  | nothing => cases asked
  | followed first second ih ih' =>
    rcases List.mem_append.mp asked with asked | asked
    · have bounds := first.id_bounds _ asked id rfl
      rw [List.getElem?_append_left (by omega)]
      exact ih asked
    · have bounds := second.id_bounds _ asked id rfl
      rw [List.getElem?_append_right (by omega), Nat.sub_sub]
      exact ih' asked
  | looked | released => simp at asked
  | found | refused =>
    simp only [List.mem_cons, reduceCtorEq, List.not_mem_nil, or_false] at asked
    cases asked
    simp
  | @made _ _ _ _ _ _ _ result _ inside _ ih =>
    rcases List.mem_append.mp asked with asked | asked
    · rcases List.mem_append.mp asked with asked | asked
      · simp only [List.mem_cons, reduceCtorEq, List.not_mem_nil, or_false] at asked
        cases asked
        simp
      · have bounds := inside.id_bounds _ asked id rfl
        rw [List.append_assoc, List.getElem?_append_right (by simp; omega),
          List.getElem?_append_left (by simp; omega)]
        simpa [Nat.sub_sub] using ih asked
    · cases result <;> simp [Mark.ending] at asked

/-- Every mark with a number belongs to a resolution that was asked for. -/
theorem asked_of_id (h : Chronicle below p n l q) {m : Mark V F} (hm : m ∈ l) {id : Nat}
    (hid : m.id? = some id) :
    ∃ key cached, .asked id key cached ∈ l ∧ m.key? = some key := by
  induction h with
  | nothing => cases hm
  | followed _ _ ih ih' =>
    rcases List.mem_append.mp hm with hm | hm
    · obtain ⟨key, cached, asked, about⟩ := ih hm
      exact ⟨key, cached, List.mem_append_left _ asked, about⟩
    · obtain ⟨key, cached, asked, about⟩ := ih' hm
      exact ⟨key, cached, List.mem_append_right _ asked, about⟩
  | looked | released =>
    rw [List.mem_singleton.mp hm] at hid
    cases hid
  | found | refused =>
    simp only [List.mem_cons, List.not_mem_nil, or_false] at hm
    rcases hm with rfl | rfl <;> cases hid <;> exact ⟨_, _, List.mem_cons_self, rfl⟩
  | made _ _ _ ih =>
    rcases List.mem_append.mp hm with hm | hm
    · rcases List.mem_append.mp hm with hm | hm
      · simp only [List.mem_cons, List.not_mem_nil, or_false] at hm
        rcases hm with rfl | rfl <;> cases hid <;> exact ⟨_, _, List.mem_cons_self, rfl⟩
      · obtain ⟨key, cached, asked, about⟩ := ih hm
        exact ⟨key, cached, List.mem_append_left _ (List.mem_append_right _ asked), about⟩
    · rw [(Mark.of_mem_ending hm).1] at hid
      cases hid
      exact ⟨_, _, List.mem_cons_self, (Mark.of_mem_ending hm).2⟩

/-- What a resolution that calls a factory does not leave itself was left in between. -/
theorem getElem?_made {key : Capability} {cached : Bool} {lifetime : ServiceLifetime}
    {result answer : Except ResolveError V} {i : Nat} {m : Mark V F}
    (at_i : ([.asked n key cached, .called n key] ++ l ++
      Mark.ending n key lifetime result answer)[i]? = some m) (foreign : m.id? ≠ some n) :
    ∃ j, i = 2 + j ∧ l[j]? = some m := by
  rw [List.append_assoc] at at_i
  rcases Nat.lt_or_ge i 2 with before | after
  · rw [List.getElem?_append_left before] at at_i
    have among := List.mem_of_getElem? at_i
    simp only [List.mem_cons, List.not_mem_nil, or_false] at among
    rcases among with rfl | rfl <;> exact absurd rfl foreign
  · rw [List.getElem?_append_right after] at at_i
    change (l ++ _)[i - 2]? = some m at at_i
    rcases Nat.lt_or_ge (i - 2) l.length with inside | behind
    · rw [List.getElem?_append_left inside] at at_i
      exact ⟨i - 2, by omega, at_i⟩
    · rw [List.getElem?_append_right behind] at at_i
      exact absurd (Mark.of_mem_ending (List.mem_of_getElem? at_i)).1 foreign

theorem take_made {key : Capability} {cached : Bool} {lifetime : ServiceLifetime}
    {result answer : Except ResolveError V} {j : Nat} (within : j ≤ l.length) :
    List.take (2 + j) ([.asked n key cached, .called n key] ++ l ++
      Mark.ending n key lifetime result answer) =
        [.asked n key cached, .called n key] ++ l.take j := by
  have two : ([.asked n key cached, .called n key] : List (Mark V F)).length = 2 := rfl
  rw [List.append_assoc, ← two, List.take_length_add_append, List.take_append_of_le_length within]

theorem mem_of_mem_made {key : Capability} {cached : Bool} {lifetime : ServiceLifetime}
    {result answer : Except ResolveError V} {m : Mark V F}
    (hm : m ∈ [.asked n key cached, .called n key] ++ l ++ Mark.ending n key lifetime result answer)
    (foreign : m.id? ≠ some n) : m ∈ l := by
  obtain ⟨i, at_i⟩ := List.mem_iff_getElem?.mp hm
  obtain ⟨j, -, inner⟩ := getElem?_made at_i foreign
  exact List.mem_of_getElem? inner

/-! ## Accounts -/

/-- A resolution leaves no marks outside of its part of the log. -/
theorem account_of_outside (h : Chronicle below p n l q) {id : Nat}
    (outside : id < n ∨ n + l.length ≤ id) : account id l = [] := by
  refine List.filter_eq_nil_iff.mpr fun m hm same => ?_
  have bounds := h.id_bounds m hm id (by simpa using same)
  omega

theorem account_append (id : Nat) (l m : List (Mark V F)) :
    account id (l ++ m) = account id l ++ account id m := List.filter_append ..

/-- The account of a resolution that calls a factory. -/
theorem account_made (inside : Chronicle below p (n + 2) l q) {key : Capability} {cached : Bool}
    {lifetime : ServiceLifetime} {result answer : Except ResolveError V} :
    account n ([.asked n key cached, .called n key] ++ l ++
      Mark.ending n key lifetime result answer) =
        [.asked n key cached, .called n key] ++ Mark.ending n key lifetime result answer := by
  have own : account n (Mark.ending n key lifetime result answer : List (Mark V F)) =
      Mark.ending n key lifetime result answer := by
    cases result <;> simp [account, Mark.ending, Mark.id?]
  rw [account_append, account_append, inside.account_of_outside (.inl (by omega)), own]
  simp [account, Mark.id?]

/-- What a resolution that calls a factory leaves itself. -/
theorem own_of_mem_made (inside : Chronicle below p (n + 2) l q) {key : Capability} {cached : Bool}
    {lifetime : ServiceLifetime} {result answer : Except ResolveError V} {m : Mark V F}
    (hm : m ∈ [.asked n key cached, .called n key] ++ l ++ Mark.ending n key lifetime result answer)
    (own : m.id? = some n) :
    m ∈ [.asked n key cached, .called n key] ++ Mark.ending n key lifetime result answer := by
  rw [← inside.account_made]
  exact List.mem_filter.mpr ⟨hm, by rw [own]; exact beq_self_eq_true _⟩

/-- A resolution that calls a factory leaves the accounts of the others as they are. -/
theorem account_made_of_ne {id : Nat} (other : id ≠ n) {key : Capability} {cached : Bool}
    {lifetime : ServiceLifetime} {result answer : Except ResolveError V} :
    account id ([.asked n key cached, .called n key] ++ l ++
      Mark.ending n key lifetime result answer) = account id l := by
  have foreign : account id (Mark.ending n key lifetime result answer : List (Mark V F)) = [] := by
    cases result <;> simp [account, Mark.ending, Mark.id?, other.symm]
  rw [account_append, account_append, foreign, List.append_nil]
  simp [account, Mark.id?, other.symm]

end Chronicle

end HostBench
