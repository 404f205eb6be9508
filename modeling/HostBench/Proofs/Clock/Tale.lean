/-
  What the sights say of a sleep, and what the clock keeps of it. The tale of a sleep is read off the
  sights alone: when it was begun and for how long, whether it was dropped, and what its last poll came
  to (`Observed.tale?`). `Observed.Faithful` is the invariant that ties the clock to the tales, sleep by
  sleep (`Sleep.Fits`, which adds the tale to what holds of every sleep, `Sleep.Sane`), and it holds
  after whatever was done (`faithful_run`).
-/
import HostBench.Proofs.Clock.Observed
import HostBench.Proofs.Clock.Sane

namespace HostBench

variable {W : Type}

/-! ## Tales -/

/-- What the sights say of a sleep. -/
structure Tale (W : Type) where
  since : Duration
  length : Duration
  dropped : Bool
  /-- On whose behalf the sleep was last polled, and whether it was ready. -/
  lastPoll : Option (W × Bool)

namespace Tale

/-- When the sleep ends. -/
def deadline (t : Tale W) : Duration := t.since + t.length

/-- Who still waits for the sleep: the one for whom it was last polled, if it was not ready. -/
def waiting (t : Tale W) : Option W :=
  match t.lastPoll with
  | some (w, false) => some w
  | _ => none

theorem waiting_eq_some_iff {t : Tale W} {w : W} :
    t.waiting = some w ↔ t.lastPoll = some (w, false) := by
  unfold waiting
  split
  · rename_i v last
    rw [last]
    simp
  · rename_i other
    constructor
    · intro h
      cases h
    · intro last
      exact absurd last (other w)

end Tale

/-- What the sights say of a sleep, if there is such a sleep. -/
def Observed.tale? (o : Observed W) (id : SleepId) : Option (Tale W) :=
  o.begun[id]?.map fun b => ⟨b.1, b.2, o.isDropped id, o.lastPoll id⟩

/-- The sleep of a clock that has moved to `elapsed` is sane, and agrees with what the sights say of
it. -/
structure Sleep.Fits (elapsed : Duration) (t : Tale W) (s : Sleep W) : Prop extends s.Sane elapsed where
  deadline_eq : s.deadline = t.deadline
  unlisted_of_cancelled : s.cancelled = true → s.listed = false
  dropped_of_cancelled : s.cancelled = true → t.dropped = true
  /-- A sleep that is over from its beginning on may be dropped and still be listed. -/
  due_of_dropped : s.listed = true → t.dropped = true → s.deadline ≤ elapsed
  waker_eq : s.listed = true → s.waker = t.waiting
  unawaited_of_due : s.listed = true → s.deadline ≤ elapsed → s.waker = none

namespace Sleep.Fits

variable {elapsed later : Duration} {t : Tale W} {s : Sleep W}

/-- A sleep is not listed only if it is due or was dropped. -/
theorem over_of_unlisted (fits : s.Fits elapsed t) (unlisted : s.listed = false) :
    s.deadline ≤ elapsed ∨ t.dropped = true := by
  by_cases due : s.deadline ≤ elapsed
  · exact .inl due
  · refine .inr (fits.dropped_of_cancelled (Bool.of_not_eq_false fun kept => ?_))
    rw [fits.listed kept due] at unlisted
    cases unlisted

theorem begun (since length : Duration) :
    (⟨since + length, none, !length.isZero, false, false⟩ : Sleep W).Fits since
      ⟨since, length, false, none⟩ where
  toSane := .begun since length
  deadline_eq := rfl
  unlisted_of_cancelled cancelled := by cases cancelled
  dropped_of_cancelled cancelled := by cases cancelled
  due_of_dropped _ dropped := by cases dropped
  waker_eq _ := rfl
  unawaited_of_due _ _ := rfl

/-- After a poll the sleep is as the poll says. -/
theorem poll (fits : s.Fits elapsed t) (w : W) :
    (s.poll elapsed w).1.Fits elapsed { t with lastPoll := some (w, (s.poll elapsed w).2) } := by
  have sane := fits.toSane.poll w
  have ready : s.deadline ≤ elapsed → s.listed = true → s.waker = none :=
    fun due listed => fits.unawaited_of_due listed due
  revert sane
  unfold Sleep.poll
  split
  · rename_i completed
    exact fun sane => { fits with toSane := sane, waker_eq := ready (fits.due completed) }
  · split
    · rename_i due
      exact fun sane => { fits with toSane := sane, waker_eq := ready due }
    · rename_i early
      exact fun sane => { fits with
        toSane := sane
        waker_eq := fun _ => rfl
        unawaited_of_due := fun _ due => absurd due early }

theorem cancel (fits : s.Fits elapsed t) : s.cancel.Fits elapsed { t with dropped := true } := by
  have sane := fits.toSane.cancel
  revert sane
  unfold Sleep.cancel
  split
  · rename_i completed
    exact fun sane => { fits with
      toSane := sane
      dropped_of_cancelled := fun _ => rfl
      due_of_dropped := fun _ _ => fits.due completed }
  · exact fun sane => {
      toSane := sane
      deadline_eq := fits.deadline_eq
      unlisted_of_cancelled := fun _ => rfl
      dropped_of_cancelled := fun _ => rfl
      due_of_dropped := fun listed => by cases listed
      waker_eq := fun listed => by cases listed
      unawaited_of_due := fun listed => by cases listed }

/-- The clock may move on, if it settles the sleep. -/
theorem settle (fits : s.Fits elapsed t) (onward : elapsed ≤ later) :
    (s.settle later).Fits later t := by
  have sane := fits.toSane.settle onward
  revert sane
  unfold Sleep.settle
  split
  · rename_i unlisted
    have unlisted : s.listed = false := by simpa using unlisted
    exact fun sane => { fits with
      toSane := sane
      due_of_dropped := fun listed => by rw [unlisted] at listed; cases listed
      unawaited_of_due := fun listed => by rw [unlisted] at listed; cases listed }
  · rename_i listed
    split
    · rename_i cancelled
      exact absurd (by rw [fits.unlisted_of_cancelled cancelled]; rfl) listed
    · split
      · rename_i due
        exact fun sane => { fits with
          toSane := sane
          unlisted_of_cancelled := fun _ => rfl
          due_of_dropped := fun _ _ => due
          waker_eq := fun h => by cases h
          unawaited_of_due := fun h => by cases h }
      · rename_i early
        exact fun sane => { fits with
          toSane := sane
          due_of_dropped := fun h dropped => Nat.le_trans (fits.due_of_dropped h dropped) onward
          unawaited_of_due := fun _ due => absurd due early }

end Sleep.Fits

namespace Observed

variable {o o' : Observed W} {op : ClockOp W} {id : SleepId} {t : Tale W} {s : Sleep W}

/-! ## What is done adds to the tales -/

/-- A clock is as the sights say. -/
structure Faithful (o : Observed W) : Prop where
  reachable : o.clock.Reachable
  length_eq : o.clock.sleeps.length = o.begun.length
  known : ∀ x ∈ o.sights, ∀ id, x.subject? = some id → id < o.begun.length
  fits : ∀ id s t, o.clock.sleeps[id]? = some s → o.tale? id = some t → s.Fits o.clock.elapsed t

theorem faithful_start (origin : Instant) : (start origin : Observed W).Faithful where
  reachable := FakeClock.reachable_withOrigin origin
  length_eq := rfl
  known x hx := absurd hx List.not_mem_nil
  fits id s t found := by cases found

/-- Of a sleep that does not exist nothing was seen. -/
theorem Faithful.unseen (faithful : o.Faithful) (unknown : o.begun.length ≤ id) :
    o.isDropped id = false ∧ o.lastPoll id = none := by
  constructor
  · refine Bool.eq_false_iff.mpr fun dropped => ?_
    obtain ⟨x, hx, drops⟩ := List.any_eq_true.mp dropped
    cases x with
    | dropped i =>
      have same : i = id := by simpa [Sight.isDrop] using drops
      have known : i < o.begun.length := faithful.known _ hx i rfl
      rw [same] at known
      exact absurd known (Nat.not_lt.mpr unknown)
    | _ => cases drops
  · have none_polled : o.sights.filterMap (Sight.poll? id) = [] := by
      refine List.filterMap_eq_nil_iff.mpr fun x hx => ?_
      cases x with
      | polled i w ready =>
        have known : i < o.begun.length := faithful.known _ hx i rfl
        have other : i ≠ id := fun same => Nat.not_lt.mpr unknown (same ▸ known)
        simp [Sight.poll?, other]
      | _ => rfl
    unfold lastPoll
    rw [none_polled]
    rfl

theorem tale?_eq_some_iff :
    o.tale? id = some t ↔ ∃ b, o.begun[id]? = some b ∧ ⟨b.1, b.2, o.isDropped id, o.lastPoll id⟩ = t :=
  Option.map_eq_some_iff

/-- A sleep that is begun has a tale of its own from then on. -/
theorem Faithful.tale?_begun (faithful : o.Faithful) (c : FakeClock W) (since length : Duration)
    (id : SleepId) :
    (⟨c, o.sights ++ [.begun since length]⟩ : Observed W).tale? id =
      if id = o.begun.length then some ⟨since, length, false, none⟩ else o.tale? id := by
  unfold tale?
  rw [begun_append, isDropped_append, lastPoll_append]
  have added : [Sight.begun since length].filterMap (Sight.begun? (W := W)) = [(since, length)] := rfl
  have undropped : [Sight.begun since length].any (Sight.isDrop (W := W) id) = false := rfl
  have unpolled : [Sight.begun since length].filterMap (Sight.poll? (W := W) id) = [] := rfl
  rw [added, undropped, unpolled, Bool.or_false]
  by_cases new : id = o.begun.length
  · obtain ⟨undropped, unpolled⟩ := faithful.unseen (Nat.le_of_eq new.symm)
    rw [if_pos new, undropped, unpolled, new, List.getElem?_concat_length]
    rfl
  · rw [if_neg new]
    by_cases old : id < o.begun.length
    · rw [List.getElem?_append_left old]
      rfl
    · have past : o.begun.length + 1 ≤ id := by
        have : o.begun.length ≤ id := Nat.le_of_not_lt old
        exact Nat.lt_of_le_of_ne this (Ne.symm new)
      rw [List.getElem?_eq_none (by simpa using past),
        List.getElem?_eq_none (Nat.le_of_succ_le past)]
      rfl

/-- Where no sleep is begun, all tales there are stay, with what is seen besides. -/
theorem tale?_append {xs : List (Sight W)} (none_begun : xs.filterMap Sight.begun? = [])
    (c : FakeClock W) (o : Observed W) (id : SleepId) :
    (⟨c, o.sights ++ xs⟩ : Observed W).tale? id = (o.tale? id).map fun t =>
      { t with
        dropped := t.dropped || xs.any (Sight.isDrop id)
        lastPoll := ((xs.filterMap (Sight.poll? id)).getLast?).or t.lastPoll } := by
  unfold tale?
  rw [begun_append, isDropped_append, lastPoll_append, none_begun, List.append_nil, Option.map_map]
  rfl

theorem tale?_polled (c : FakeClock W) (o : Observed W) (i : SleepId) (w : W) (ready : Bool)
    (id : SleepId) :
    (⟨c, o.sights ++ [.polled i w ready]⟩ : Observed W).tale? id =
      (o.tale? id).map fun t => if i = id then { t with lastPoll := some (w, ready) } else t := by
  rw [tale?_append rfl]
  refine Option.map_congr fun t _ => ?_
  by_cases same : i = id
  · simp [Sight.isDrop, Sight.poll?, same]
  · simp [Sight.isDrop, Sight.poll?, same]

theorem tale?_dropped (c : FakeClock W) (o : Observed W) (i id : SleepId) :
    (⟨c, o.sights ++ [.dropped i]⟩ : Observed W).tale? id =
      (o.tale? id).map fun t => if i = id then { t with dropped := true } else t := by
  rw [tale?_append rfl]
  refine Option.map_congr fun t _ => ?_
  by_cases same : i = id
  · simp [Sight.isDrop, Sight.poll?, same]
  · have other : (i == id) = false := by simpa using same
    simp [Sight.isDrop, Sight.poll?, same, other]

/-- Whoever is woken, and how many are reported, adds nothing to the tales. -/
theorem tale?_woken (c : FakeClock W) (o : Observed W) (ws : List W) (id : SleepId) :
    (⟨c, o.sights ++ Sight.ofWoken ws⟩ : Observed W).tale? id = o.tale? id := by
  rw [tale?_append (Sight.filterMap_ofWoken rfl fun _ _ => rfl)]
  have silent : ((Sight.ofWoken ws).filterMap (Sight.poll? id)).getLast? = none := by
    rw [Sight.filterMap_ofWoken rfl fun _ _ => rfl]
    rfl
  have undropped : (Sight.ofWoken ws).any (Sight.isDrop id) = false := by
    refine List.any_eq_false.mpr fun x hx => ?_
    rcases Sight.mem_ofWoken.mp hx with rfl | ⟨w, -, rfl⟩ <;> simp [Sight.isDrop]
  rw [silent, undropped]
  simp only [Bool.or_false, Option.none_or, Option.map_id']

/-! ## Whatever is done, the clock stays as the sights say -/

theorem Faithful.exists_tale (faithful : o.Faithful) (found : o.clock.sleeps[id]? = some s) :
    ∃ t, o.tale? id = some t ∧ s.Fits o.clock.elapsed t := by
  have known : id < o.begun.length := by
    rw [← faithful.length_eq]
    exact (List.getElem?_eq_some_iff.mp found).1
  have told : o.tale? id = some ⟨o.begun[id].1, o.begun[id].2, o.isDropped id, o.lastPoll id⟩ := by
    unfold tale?
    rw [List.getElem?_eq_getElem known]
    rfl
  exact ⟨_, told, faithful.fits id s _ found told⟩

theorem Faithful.exists_sleep (faithful : o.Faithful) (told : o.tale? id = some t) :
    ∃ s, o.clock.sleeps[id]? = some s ∧ s.Fits o.clock.elapsed t := by
  obtain ⟨b, known, -⟩ := tale?_eq_some_iff.mp told
  have listed : id < o.clock.sleeps.length := by
    rw [faithful.length_eq]
    exact (List.getElem?_eq_some_iff.mp known).1
  exact ⟨_, List.getElem?_eq_getElem listed,
    faithful.fits id _ t (List.getElem?_eq_getElem listed) told⟩

theorem Faithful.sleep (faithful : o.Faithful) (d : Duration) :
    ((ClockOp.sleep d).perform o).Faithful where
  reachable := faithful.reachable
  length_eq := by
    show (o.clock.sleeps ++ [_]).length = _
    unfold ClockOp.perform
    rw [begun_append, List.length_append, List.length_append, faithful.length_eq]
    rfl
  known := by
    intro x hx i subject
    unfold ClockOp.perform
    rw [begun_append, List.length_append]
    rcases List.mem_append.mp hx with old | new
    · exact Nat.lt_add_right _ (faithful.known x old i subject)
    · rw [List.mem_singleton.mp new] at subject
      cases subject
  fits := by
    intro i s t found told
    have told := (faithful.tale?_begun _ o.clock.elapsed d i).symm.trans told
    have found : (o.clock.sleeps ++
      [⟨o.clock.elapsed + d, none, !d.isZero, false, false⟩])[i]? = some s := found
    by_cases new : i = o.begun.length
    · rw [if_pos new] at told
      rw [new, ← faithful.length_eq, List.getElem?_concat_length] at found
      cases told
      cases found
      exact .begun o.clock.elapsed d
    · rw [if_neg new] at told
      rw [List.getElem?_append_left] at found
      · exact faithful.fits i s t found told
      · obtain ⟨b, known, -⟩ := tale?_eq_some_iff.mp told
        rw [faithful.length_eq]
        exact (List.getElem?_eq_some_iff.mp known).1

/-- What is done with one sleep is told of this one alone. -/
theorem Faithful.set {s' : Sleep W} {x : Sight W} {f : Tale W → Tale W} (faithful : o.Faithful)
    (found : o.clock.sleeps[id]? = some s) (subject : x.subject? = some id)
    (told : ∀ c : FakeClock W, ∀ i, (⟨c, o.sights ++ [x]⟩ : Observed W).tale? i =
      (o.tale? i).map fun t => if id = i then f t else t)
    (fits : ∀ t, s.Fits o.clock.elapsed t → s'.Fits o.clock.elapsed (f t)) :
    (⟨{ o.clock with sleeps := o.clock.sleeps.set id s' }, o.sights ++ [x]⟩ :
      Observed W).Faithful := by
  have none_begun : [x].filterMap Sight.begun? = [] := by
    cases x <;> first | rfl | cases subject
  constructor
  case reachable => exact faithful.reachable
  case length_eq =>
    rw [begun_append, none_begun, List.append_nil, List.length_set]
    exact faithful.length_eq
  case known =>
    intro y hy i hi
    rw [begun_append, none_begun, List.append_nil]
    rcases List.mem_append.mp hy with old | new
    · exact faithful.known y old i hi
    · rw [List.mem_singleton.mp new, subject] at hi
      cases hi
      rw [← faithful.length_eq]
      exact (List.getElem?_eq_some_iff.mp found).1
  case fits =>
    intro i u t found' told'
    rw [told, Option.map_eq_some_iff] at told'
    obtain ⟨t', told', rfl⟩ := told'
    by_cases same : id = i
    · subst same
      rw [if_pos rfl]
      have here : (o.clock.sleeps.set id s')[id]? = some s' :=
        List.getElem?_set_self (List.getElem?_eq_some_iff.mp found).1
      cases here.symm.trans found'
      exact fits t' (faithful.fits id s t' found told')
    · rw [if_neg same]
      have there : (o.clock.sleeps.set id s')[i]? = o.clock.sleeps[i]? :=
        List.getElem?_set_ne same
      exact faithful.fits i u t' (there.symm.trans found') told'

/-- A sleep that is held is kept by the clock. -/
theorem Faithful.exists_of_isHeld (faithful : o.Faithful) (held : o.isHeld id = true) :
    ∃ s, o.clock.sleeps[id]? = some s := by
  unfold isHeld at held
  rw [Bool.and_eq_true, decide_eq_true_eq, ← faithful.length_eq] at held
  exact ⟨_, List.getElem?_eq_getElem held.1⟩

/-- A poll is ready just if the tale of the sleep is at its end. -/
theorem Faithful.ready_iff (faithful : o.Faithful) (told : o.tale? id = some t) (w : W) :
    (o.clock.poll id w).2 = true ↔ t.deadline ≤ o.clock.elapsed := by
  obtain ⟨s, found, fits⟩ := faithful.exists_sleep told
  rw [← fits.deadline_eq]
  exact FakeClock.ready_iff found fits.toSane w

theorem Faithful.advance (faithful : o.Faithful) {delta : Duration} (moves : delta.isZero = false) :
    (⟨(o.clock.advance delta).1, o.sights ++ Sight.ofWoken (o.clock.advance delta).2⟩ :
      Observed W).Faithful := by
  have none_begun : ∀ ws : List W, (Sight.ofWoken ws).filterMap Sight.begun? = [] :=
    fun ws => Sight.filterMap_ofWoken rfl fun _ _ => rfl
  have settled := FakeClock.sleeps_advance (c := o.clock) moves
  constructor
  case reachable => exact FakeClock.reachable_advance faithful.reachable delta
  case length_eq =>
    rw [begun_append, none_begun, List.append_nil, settled, List.length_map]
    exact faithful.length_eq
  case known =>
    intro x hx i subject
    rw [begun_append, none_begun, List.append_nil]
    rcases List.mem_append.mp hx with old | new
    · exact faithful.known x old i subject
    · rcases Sight.mem_ofWoken.mp new with rfl | ⟨w, -, rfl⟩ <;> cases subject
  case fits =>
    intro i u t found told
    rw [tale?_woken] at told
    rw [settled, List.getElem?_map, Option.map_eq_some_iff] at found
    obtain ⟨s, found, rfl⟩ := found
    rw [FakeClock.elapsed_advance moves]
    exact (faithful.fits i s t found told).settle (FakeClock.le_reached faithful.reachable delta)

theorem Faithful.does (faithful : o.Faithful) (does : op.Does o o') : o'.Faithful := by
  cases does with
  | sleep d => exact faithful.sleep d
  | @poll id held w =>
    obtain ⟨s, found⟩ := faithful.exists_of_isHeld held
    rw [FakeClock.poll_of_getElem? found]
    exact faithful.set found rfl (fun c i => tale?_polled c o id w _ i) fun t fits => fits.poll w
  | @drop id held =>
    obtain ⟨s, found⟩ := faithful.exists_of_isHeld held
    rw [FakeClock.cancel_of_getElem? found]
    exact faithful.set found rfl (fun c i => tale?_dropped c o id i) fun t fits => fits.cancel
  | advance moves => exact faithful.advance moves
  | nothing _ => exact faithful

theorem Faithful.perform (faithful : o.Faithful) (op : ClockOp W) : (op.perform o).Faithful :=
  faithful.does (op.does_perform o)

theorem Faithful.run (faithful : o.Faithful) (ops : List (ClockOp W)) : (run ops o).Faithful := by
  induction ops generalizing o with
  | nil => exact faithful
  | cons op ops ih => exact ih (faithful.perform op)

theorem faithful_run (origin : Instant) (ops : List (ClockOp W)) :
    (run ops (start origin)).Faithful := (faithful_start origin).run ops

/-! ## Tales go on -/

/-- Time does not go back, whatever is done. -/
theorem Faithful.le_elapsed_does (faithful : o.Faithful) (does : op.Does o o') :
    o.clock.elapsed ≤ o'.clock.elapsed := by
  cases does with
  | sleep d => exact Nat.le_refl _
  | poll held w =>
    rw [FakeClock.elapsed_poll]
    exact Nat.le_refl _
  | drop held =>
    rw [FakeClock.elapsed_cancel]
    exact Nat.le_refl _
  | advance moves => exact FakeClock.le_elapsed_advance faithful.reachable _
  | nothing _ => exact Nat.le_refl _

theorem Faithful.le_elapsed_run (faithful : o.Faithful) (ops : List (ClockOp W)) :
    o.clock.elapsed ≤ (Observed.run ops o).clock.elapsed := by
  induction ops generalizing o with
  | nil => exact Nat.le_refl _
  | cons op ops ih =>
    exact Nat.le_trans (faithful.le_elapsed_does (op.does_perform o)) (ih (faithful.perform op))

end Observed

/-- A tale goes on: what was said of the sleep stays said. -/
structure Tale.Onward (t t' : Tale W) : Prop where
  since_eq : t'.since = t.since
  length_eq : t'.length = t.length
  dropped : t.dropped = true → t'.dropped = true
  polled : t.lastPoll.isSome = true → t'.lastPoll.isSome = true

namespace Tale.Onward

variable {t t' t'' : Tale W}

theorem refl (t : Tale W) : t.Onward t := ⟨rfl, rfl, id, id⟩

theorem trans (first : t.Onward t') (second : t'.Onward t'') : t.Onward t'' where
  since_eq := second.since_eq.trans first.since_eq
  length_eq := second.length_eq.trans first.length_eq
  dropped h := second.dropped (first.dropped h)
  polled h := second.polled (first.polled h)

theorem deadline_eq (onward : t.Onward t') : t'.deadline = t.deadline := by
  unfold Tale.deadline
  rw [onward.since_eq, onward.length_eq]

end Tale.Onward

namespace Observed

variable {o o' : Observed W} {op : ClockOp W} {id : SleepId} {t : Tale W}

theorem Faithful.onward_does (faithful : o.Faithful) (told : o.tale? id = some t)
    (does : op.Does o o') : ∃ t', o'.tale? id = some t' ∧ t.Onward t' := by
  cases does with
  | sleep d =>
    obtain ⟨b, known, -⟩ := tale?_eq_some_iff.mp told
    have old : id ≠ o.begun.length := Nat.ne_of_lt (List.getElem?_eq_some_iff.mp known).1
    rw [faithful.tale?_begun, if_neg old]
    exact ⟨t, told, .refl t⟩
  | @poll i held w =>
    rw [tale?_polled, told, Option.map_some]
    by_cases same : i = id
    · rw [if_pos same]
      exact ⟨_, rfl, rfl, rfl, fun h => h, fun _ => rfl⟩
    · rw [if_neg same]
      exact ⟨t, rfl, .refl t⟩
  | @drop i held =>
    rw [tale?_dropped, told, Option.map_some]
    by_cases same : i = id
    · rw [if_pos same]
      exact ⟨_, rfl, rfl, rfl, fun _ => rfl, fun h => h⟩
    · rw [if_neg same]
      exact ⟨t, rfl, .refl t⟩
  | advance moves =>
    rw [tale?_woken]
    exact ⟨t, told, .refl t⟩
  | nothing _ => exact ⟨t, told, .refl t⟩

theorem Faithful.onward_run (faithful : o.Faithful) (told : o.tale? id = some t)
    (ops : List (ClockOp W)) : ∃ t', (Observed.run ops o).tale? id = some t' ∧ t.Onward t' := by
  induction ops generalizing o t with
  | nil => exact ⟨t, told, .refl t⟩
  | cons op ops ih =>
    obtain ⟨t', told', first⟩ := faithful.onward_does told (op.does_perform o)
    obtain ⟨t'', told'', rest⟩ := ih (faithful.perform op) told'
    exact ⟨t'', told'', first.trans rest⟩

end Observed

end HostBench
