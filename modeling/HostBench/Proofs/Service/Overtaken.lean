/-
  Resolutions that the release of the services overtakes: it happens between the call of a factory,
  at whatever depth, and its return. What such a resolution answers depends on the entry: a singleton
  that was made in vain is not handed out, but a transient service is (`overtaken_answer`,
  `transient_outlives_release`).

  For this the factories need not be acyclic. `Kitchen.Follows` tells of all that comes to its end,
  the runs of a cookbook among them (`Cookbook.follows_serve`).
-/
import HostBench.Proofs.Service.Chronicle
import HostBench.Proofs.Service.Kept

namespace HostBench

variable {E V F α : Type}

/-! ## Factories that may do anything -/

/-- What the factories of a registry do. Each may resolve what is `within` its bounds, and these may
well lead back to its own capability. -/
structure Kitchen (E V F : Type) where
  within : Capability → Capability → Prop
  recipe : (key : Capability) → F → Recipe E V F (within key) (Except ResolveError V)

/-- A recipe is followed to its end: from one workshop to what it comes to, and to the workshop after
that. Factories that lead back to themselves need not come to an end. -/
inductive Kitchen.Follows (k : Kitchen E V F) : {within : Capability → Prop} → {α : Type} →
    Recipe E V F within α → Workshop E V F → α → Workshop E V F → Prop
  | done {within : Capability → Prop} {α : Type} {a : α} {w : Workshop E V F} :
      Follows k (.done a : Recipe E V F within α) w a w
  | act {within : Capability → Prop} {α : Type} {change : E → E} {next : E → Recipe E V F within α}
      {w w' : Workshop E V F} {a : α}
      (later : Follows k (next w.around) { w with around := change w.around } a w') :
      Follows k (.act change next) w a w'
  | look {within : Capability → Prop} {α : Type} {next : Provider V F → Recipe E V F within α}
      {w w' : Workshop E V F} {a : α}
      (later : Follows k (next w.provider) (w.noting [.looked w.provider]) a w') :
      Follows k (.look next) w a w'
  | get {within : Capability → Prop} {α : Type} {key : Capability} {allowed : within key}
      {next : Except ResolveError V → Recipe E V F within α} {w w' : Workshop E V F} {a : α}
      {make : F → StateM (Workshop E V F) (Except ResolveError V)}
      (inside : ∀ lifetime f, w.provider.lookup key = .toMake lifetime f →
        Follows k (k.recipe key f)
          (w.noting [.asked w.log.length key (w.provider.keeps key), .called w.log.length key])
          (make f (w.noting [.asked w.log.length key (w.provider.keeps key),
            .called w.log.length key])).1
          (make f (w.noting [.asked w.log.length key (w.provider.keeps key),
            .called w.log.length key])).2)
      (later : Follows k (next (Workshop.resolve make key w).1) (Workshop.resolve make key w).2 a w') :
      Follows k (.get key allowed next) w a w'
  | release {within : Capability → Prop} {α : Type} {next : Nat → Recipe E V F within α}
      {w w' : Workshop E V F} {a : α}
      (later : Follows k (next w.provider.release.2)
        { w.noting [.released w.provider.release.2] with provider := w.provider.release.1 } a w') :
      Follows k (.release next) w a w'

/-- To follow a recipe to its end leads on. -/
theorem Kitchen.Follows.leads {k : Kitchen E V F} {within : Capability → Prop}
    {recipe : Recipe E V F within α} {w w' : Workshop E V F} {a : α} (ends : k.Follows recipe w a w') :
    Workshop.Leads (fun _ _ => True) (fun _ => True) w w' := by
  induction ends with
  | done => exact .refl _
  | act _ ih => exact ih
  | look _ ih => exact (Workshop.Leads.looked _).trans ih
  | get _ _ inner ih =>
    refine (Workshop.leads_resolve trivial fun lifetime f toMake => ?_).trans ih
    exact (inner lifetime f toMake).mono fun _ _ => ⟨trivial, trivial⟩
  | release _ ih => exact (Workshop.Leads.released _).trans ih

namespace Cookbook

/-- The factories of a cookbook. -/
def kitchen (c : Cookbook E V F) : Kitchen E V F := ⟨fun key k => c.rank k < c.rank key, c.recipe⟩

/-- A recipe ends, if those of the factories that it has called do. -/
theorem follows_run_of {c : Cookbook E V F} {within : Capability → Prop}
    (factories : ∀ key, within key → ∀ f w, c.kitchen.Follows (c.recipe key f) w
      ((c.recipe key f).run (fun k _ => c.get k) w).1 ((c.recipe key f).run (fun k _ => c.get k) w).2)
    (recipe : Recipe E V F within α) (w : Workshop E V F) :
    c.kitchen.Follows recipe w (recipe.run (fun key _ => c.get key) w).1
      (recipe.run (fun key _ => c.get key) w).2 := by
  induction recipe generalizing w with
  | done a => exact .done
  | act change next ih => exact .act (ih _ _)
  | look next ih => exact .look (ih _ _)
  | get key allowed next ih =>
    have resolved : c.get key = Workshop.resolve
        (fun f => (c.recipe key f).run fun k _ => c.get k) key := by rw [get]
    have later := ih (c.get key w).1 (c.get key w).2
    have rest : (Recipe.get key allowed next).run (fun key _ => c.get key) w =
      (next (c.get key w).1).run (fun key _ => c.get key) (c.get key w).2 := rfl
    rw [rest]
    rw [resolved] at later ⊢
    exact .get (fun _ f _ => factories key allowed f _) later
  | release next ih => exact .release (ih _ _)

theorem follows_recipe (c : Cookbook E V F) (key : Capability) (f : F) (w : Workshop E V F) :
    c.kitchen.Follows (c.recipe key f) w ((c.recipe key f).run (fun k _ => c.get k) w).1
      ((c.recipe key f).run (fun k _ => c.get k) w).2 :=
  follows_run_of (fun k _ f w => follows_recipe c k f w) (c.recipe key f) w
termination_by c.rank key

/-- Where no factory leads back to itself, everything comes to its end. -/
theorem follows_serve (c : Cookbook E V F) (client : Client E V F α) (w : Workshop E V F) :
    c.kitchen.Follows client w (c.serve client w).1 (c.serve client w).2 :=
  follows_run_of (fun k _ f w => c.follows_recipe k f w) client w

end Cookbook

/-! ## What is handed out too late -/

/-- The answer of a resolution whose factory returns after the release. -/
def overtaken (key : Capability) (lifetime : ServiceLifetime) :
    Except ResolveError V → Except ResolveError V
  | .error e => .error (e.through key)
  | .ok v => if lifetime = .transient then .ok v else .error (.disposed ⟨"resolve"⟩)

theorem Provider.eq_released {p : Provider V F} (gone : p.isReleased = true) : p = .released := by
  obtain ⟨services⟩ := p
  cases services with
  | none => rfl
  | some s => cases gone

theorem accept_of_released {p : Provider V F} (gone : p.isReleased = true) (key : Capability)
    (lifetime : ServiceLifetime) (result : Except ResolveError V) :
    p.accept key lifetime result = (overtaken key lifetime result, p) := by
  rw [Provider.eq_released gone]
  cases result with
  | error e => rfl
  | ok v =>
    by_cases transient : lifetime = .transient
    · simp [Provider.accept, overtaken, transient]
    · simp [Provider.accept, overtaken, transient, Provider.keep, Provider.released]

theorem ResolveError.through_eq_disposed_iff {key : Capability} {e : ResolveError}
    {d : DisposedError} : e.through key = .disposed d ↔ e = .disposed d := by
  cases e <;> simp [through]

/-- The services are refused to those whom the release overtakes, except for transient ones, and
except for the failures of their factories. -/
theorem overtaken_eq_disposed_iff {key : Capability} {lifetime : ServiceLifetime}
    {result : Except ResolveError V} :
    overtaken key lifetime result = .error (.disposed ⟨"resolve"⟩) ↔
      result = .error (.disposed ⟨"resolve"⟩) ∨ (∃ v, result = .ok v) ∧ lifetime ≠ .transient := by
  cases result with
  | error e => simp [overtaken, ResolveError.through_eq_disposed_iff]
  | ok v => by_cases transient : lifetime = .transient <;> simp [overtaken, transient]

theorem overtaken_eq_ok_iff {key : Capability} {lifetime : ServiceLifetime}
    {result : Except ResolveError V} {v : V} :
    overtaken key lifetime result = .ok v ↔ result = .ok v ∧ lifetime = .transient := by
  cases result with
  | error e => simp [overtaken]
  | ok u => by_cases transient : lifetime = .transient <;> simp [overtaken, transient]

/-- The provider of a registry, released or not. -/
def Provider.Of (r : Registry V F) (p : Provider V F) : Prop :=
  p.isReleased = true ∨ ∃ kept, p = .holding r kept

theorem Provider.Of.accept {r : Registry V F} {p : Provider V F} (of : p.Of r) (key : Capability)
    (lifetime : ServiceLifetime) (result : Except ResolveError V) :
    (p.accept key lifetime result).2.Of r := by
  rcases of with gone | ⟨kept, rfl⟩
  · rw [accept_of_released gone]
    exact .inl gone
  · cases result with
    | error e => exact .inr ⟨kept, rfl⟩
    | ok v =>
      rcases accept_ok_cases r kept key lifetime v with ⟨u, accepted⟩ | accepted
      · rw [accepted]
        exact .inr ⟨kept, rfl⟩
      · rw [accepted]
        exact .inr ⟨_, rfl⟩

namespace Chronicle

variable {below : Capability → Capability → Prop} {p q : Provider V F} {n : Nat} {l : List (Mark V F)}
  {r : Registry V F} {key : Capability}

theorem of_mono (h : Chronicle below p n l q) (of : p.Of r) : q.Of r := by
  induction h with
  | nothing | looked | found | refused => exact of
  | followed _ _ ih ih' => exact ih' (ih of)
  | released => exact .inl rfl
  | made _ _ _ ih => exact (ih of).accept _ _ _

theorem isReleased_of_mem (h : Chronicle below p n l q) {count : Nat} (released : .released count ∈ l) :
    q.isReleased = true := by
  induction h with
  | nothing | looked | found | refused => simp at released
  | followed _ second ih ih' =>
    rcases List.mem_append.mp released with released | released
    · exact second.isReleased_mono (ih released)
    · exact ih' released
  | released => rfl
  | made _ _ _ ih =>
    rw [Provider.isReleased_accept]
    exact ih (mem_of_mem_made released (by simp [Mark.id?]))

/-- The marks of one resolution, with anything in between, were left in one part of the log. -/
theorem sublist_of_followed {t : Provider V F} {m : List (Mark V F)} (first : Chronicle below p n l q)
    (second : Chronicle below q (n + l.length) m t) {id : Nat} {x y z : Mark V F}
    (hx : x.id? = some id) (hz : z.id? = some id) (order : [x, y, z].Sublist (l ++ m)) :
    [x, y, z].Sublist l ∨ [x, y, z].Sublist m := by
  obtain ⟨a, b, whole, ha, hb⟩ := List.sublist_append_iff.mp order
  cases a with
  | nil => exact .inr (by rw [whole]; exact hb)
  | cons u a =>
    cases b with
    | nil => exact .inl (by rw [whole, List.append_nil]; exact ha)
    | cons v b =>
      -- the first mark lies in the one part and the last one in the other
      have u_first : u = x := (List.cons.inj whole).1.symm
      have hzb : z ∈ v :: b := by
        have last : ([x, y, z] : List (Mark V F)).getLast? = some z := rfl
        rw [whole, List.getLast?_append] at last
        exact List.mem_of_getLast? (by simpa [List.getLast?_cons] using last)
      have below := first.id_bounds x (ha.subset (u_first ▸ List.mem_cons_self)) id hx
      have above := second.id_bounds z (hb.subset hzb) id hz
      omega

/-- Marks that a resolution with a factory does not leave itself were left in between. -/
theorem sublist_of_made {cached : Bool} {lifetime : ServiceLifetime}
    {result answer : Except ResolveError V} {marks : List (Mark V F)}
    (foreign : ∀ m ∈ marks, m.id? ≠ some n)
    (order : marks.Sublist ([.asked n key cached, .called n key] ++ l ++
      Mark.ending n key lifetime result answer)) : marks.Sublist l := by
  have kept := order.filter fun m => m.id? != some n
  have all : marks.filter (fun m => m.id? != some n) = marks :=
    List.filter_eq_self.mpr fun m hm => by simpa using foreign m hm
  have none_of : (Mark.ending n key lifetime result answer).filter (fun m => m.id? != some n) =
      ([] : List (Mark V F)) :=
    List.filter_eq_nil_iff.mpr fun m hm => by simp [(Mark.of_mem_ending hm).1]
  rw [all, List.filter_append, List.filter_append, none_of] at kept
  simp only [Mark.id?, List.filter_cons, bne_self_eq_false, Bool.false_eq_true, if_false,
    List.filter_nil, List.nil_append, List.append_nil] at kept
  exact kept.trans List.filter_sublist

/-- A resolution that the release overtakes leaves what the return of its factory says. -/
theorem overtaken (h : Chronicle below p n l q) (of : p.Of r) {id count : Nat}
    {result : Except ResolveError V}
    (order : [.called id key, .released count, .made id key result].Sublist l) :
    ∃ e, r.find? key = some e ∧ e.lifetime ≠ .fixed ∧
      account id l = [.asked id key false, .called id key] ++
        Mark.ending id key e.lifetime result (HostBench.overtaken key e.lifetime result) := by
  induction h with
  | nothing | looked | released | found | refused =>
    have short := order.length_le
    simp at short
  | followed first second ih ih' =>
    rw [account_append]
    rcases first.sublist_of_followed second rfl rfl order with inner | inner
    · have bounds := first.id_bounds (.called id key) (inner.subset List.mem_cons_self) id rfl
      rw [second.account_of_outside (.inl (by omega)), List.append_nil]
      exact ih of inner
    · have bounds := second.id_bounds (.called id key) (inner.subset List.mem_cons_self) id rfl
      rw [first.account_of_outside (.inr (by omega)), List.nil_append]
      exact ih' (first.of_mono of) inner
  | @made _ _ n l k lifetime f outcome toMake inside lower ih =>
    by_cases own : id = n
    · subst own
      have called := inside.own_of_mem_made (order.subset List.mem_cons_self) rfl
      have made := inside.own_of_mem_made
        (order.subset (.tail _ (.tail _ List.mem_cons_self))) rfl
      have same : key = k ∧ result = outcome := by
        cases outcome <;> simpa [Mark.ending, and_assoc] using And.intro called made
      obtain ⟨rfl, rfl⟩ := same
      have gone := inside.isReleased_of_mem
        (mem_of_mem_made (order.subset (.tail _ List.mem_cons_self)) (by simp [Mark.id?]))
      rcases of with nowhere | ⟨kept, rfl⟩
      · rw [Provider.eq_released nowhere, Provider.lookup_released] at toMake
        cases toMake
      obtain ⟨absent, entry⟩ := Provider.holding_of_toMake toMake
      rw [inside.account_made, accept_of_released gone, Provider.keeps_holding, absent]
      rcases entry with ⟨registered, rfl⟩ | ⟨registered, rfl⟩
      · exact ⟨_, registered, by simp [Entry.lifetime], rfl⟩
      · exact ⟨_, registered, by simp [Entry.lifetime], rfl⟩
    · rw [account_made_of_ne own]
      refine ih of (sublist_of_made ?_ order)
      simpa [Mark.id?] using own

end Chronicle

/-! ## Whole runs -/

/-- Whatever is done with a provider, and whatever its factories do: a resolution whose factory runs
while the services are released is answered, and leaves nothing behind. It is refused the service
just if that was made for a singleton, or if the factory was refused a service itself; and a service
is handed out to it just if that is transient. -/
theorem overtaken_answer {k : Kitchen E V F} {client : Cookbook.Client E V F α} {r : Registry V F}
    {around : E} {a : α} {w : Workshop E V F} (ends : k.Follows client (.ofRegistry r around) a w)
    {key : Capability} {id count : Nat} {result : Except ResolveError V}
    (order : [.called id key, .released count, .made id key result].Sublist w.log) :
    w.provider = .released ∧
      ∃ e answer, r.find? key = some e ∧
        account id w.log =
          [.asked id key false, .called id key] ++ Mark.ending id key e.lifetime result answer ∧
        (answer = .error (.disposed ⟨"resolve"⟩) ↔
          result = .error (.disposed ⟨"resolve"⟩) ∨
            (∃ v, result = .ok v) ∧ e.lifetime = .singleton) ∧
        ∀ v, answer = .ok v ↔ result = .ok v ∧ e.lifetime = .transient := by
  obtain ⟨l, grown, chronicle, -⟩ := ends.leads
  have whole : w.log = l := grown
  rw [whole] at order ⊢
  have gone := chronicle.isReleased_of_mem (order.subset (.tail _ List.mem_cons_self))
  obtain ⟨e, registered, made, left⟩ := chronicle.overtaken (.inr ⟨[], rfl⟩) order
  refine ⟨Provider.eq_released gone, e, overtaken key e.lifetime result, registered, left, ?_,
    fun v => overtaken_eq_ok_iff⟩
  have singleton : e.lifetime ≠ .transient ↔ e.lifetime = .singleton := by
    cases e <;> simp_all [Entry.lifetime]
  rw [overtaken_eq_disposed_iff, singleton]

/-! ## A factory that lets its host go -/

namespace Fleeting

def key : Capability := ⟨"fleeting"⟩

/-- Has the services released, and makes one after all. -/
def cookbook : Cookbook Unit String Unit where
  rank _ := 0
  recipe _ _ := .release fun _ => .done (.ok "made too late")

def registry (e : Entry String Unit) : Registry String Unit := ⟨[(key, e)]⟩

def client : Cookbook.Client Unit String Unit Unit := .get key trivial fun _ => .done ()

/-- What the log says in the end. -/
def log (e : Entry String Unit) : List (Mark String Unit) :=
  (cookbook.serve client (.ofRegistry (registry e) ())).2.log

theorem log_of_toMake {e : Entry String Unit} {lifetime : ServiceLifetime}
    (toMake : (Provider.ofRegistry (registry e)).lookup key = .toMake lifetime ()) :
    log e = [.asked 0 key false, .called 0 key, .released 1] ++
      Mark.ending 0 key lifetime (.ok "made too late")
        (overtaken key lifetime (.ok "made too late")) := by
  have served : log e = (cookbook.get key (.ofRegistry (registry e) ())).2.log := rfl
  have resolved := @Workshop.resolve_of_toMake _ _ _
    (fun f => (cookbook.recipe key f).run fun k _ => cookbook.get k) key
    (.ofRegistry (registry e) ()) lifetime () (.ok "made too late") _ toMake rfl
  rw [served, Cookbook.get, resolved, accept_of_released rfl]
  rfl

theorem overtakes {e : Entry String Unit} {lifetime : ServiceLifetime}
    (toMake : (Provider.ofRegistry (registry e)).lookup key = .toMake lifetime ()) :
    [.called 0 key, .released 1, .made 0 key (.ok "made too late")].Sublist (log e) := by
  rw [log_of_toMake toMake]
  exact (List.sublist_append_left [_, _, _] _).cons _

/-- The singleton of this factory is not handed out. -/
theorem singleton_refused :
    [.called 0 key, .released 1, .made 0 key (.ok "made too late")].Sublist (log (.singleton ())) ∧
      .answered 0 key (.error (.disposed ⟨"resolve"⟩)) ∈ log (.singleton ()) := by
  refine ⟨overtakes rfl, ?_⟩
  obtain ⟨-, e, answer, registered, left, refused, -⟩ :=
    overtaken_answer (cookbook.follows_serve client (.ofRegistry (registry (.singleton ())) ()))
      (overtakes rfl)
  have own : e.lifetime = .singleton := by cases registered; rfl
  have answered : .answered 0 key answer ∈ account 0 (log (.singleton ())) := by
    rw [log, left]
    simp [Mark.ending]
  rw [refused.mpr (.inr ⟨⟨_, rfl⟩, own⟩)] at answered
  exact List.mem_of_mem_filter answered

/-- A transient service of this factory is handed out, although its host has released everything. -/
theorem transient_outlives_release :
    ¬ ∀ id count result answer,
      [.called id key, .released count, .made id key result].Sublist (log (.transient ())) →
        .answered id key answer ∈ log (.transient ()) → answer = .error (.disposed ⟨"resolve"⟩) := by
  intro refused
  have answered : .answered 0 key (.ok "made too late") ∈ log (.transient ()) := by
    rw [log_of_toMake rfl]
    simp [Mark.ending, overtaken]
  have wrong := refused 0 1 _ _ (overtakes rfl) answered
  cases wrong

end Fleeting

end HostBench
