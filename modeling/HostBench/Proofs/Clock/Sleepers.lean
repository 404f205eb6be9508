/-
  Which sleeps a clock lists. A sleep is put on the list when it is begun, unless it has no length; it
  goes from the list when a move finds it due or when it is dropped before it is known to be over
  (`sleepers_sleep`, `sleepers_advance`, `lists_cancel`). That it is over is kept elsewhere, so that the
  list and the sleeps might come apart. They do where sums stop at the longest duration: a sleep that is
  begun there is due and listed. Before that no listed sleep is due (`FakeClock.Punctual`), and then the
  list holds just the sleeps that are not dropped and still have to wait (`sleepers_exactly`).
-/
import HostBench.Proofs.Clock.Wakes
import HostBench.Proofs.Clock.Elapsed

namespace HostBench

variable {W : Type}

/-! ## What becomes of one sleep -/

namespace Sleep

variable {s : Sleep W} {elapsed : Duration}

theorem listed_poll (elapsed : Duration) (w : W) (s : Sleep W) :
    (s.poll elapsed w).1.listed = s.listed := by
  unfold poll
  split
  · rfl
  · split <;> rfl

/-- A sleep that is given up stays listed only if it is known to be over. -/
theorem listed_cancel (s : Sleep W) : s.cancel.listed = (s.listed && s.completed) := by
  unfold cancel
  split
  · rename_i completed
    rw [completed, Bool.and_true]
  · rename_i going_on
    rw [Bool.eq_false_iff.mpr going_on, Bool.and_false]

theorem listed_settle (kept : s.cancelled = true → s.listed = false) (elapsed : Duration) :
    (s.settle elapsed).listed = (s.listed && decide (elapsed < s.deadline)) := by
  rw [settle_of_kept kept]
  by_cases due : s.deadline ≤ elapsed
  · have late : ¬ elapsed < s.deadline := Nat.not_lt.mpr due
    cases listed : s.listed <;> simp [listed, due, late]
  · have early : elapsed < s.deadline := Nat.lt_of_not_le due
    simp [due, early]

end Sleep

namespace FakeClock

variable {c c' : FakeClock W} {id : SleepId} {s : Sleep W}

/-! ## The list after each operation -/

/-- The sleeps that the clock still waits for, in the order of their creation. -/
def sleepers (c : FakeClock W) : List SleepId := (List.range c.sleeps.length).filter c.lists

theorem lists_eq_true_iff :
    c.lists id = true ↔ ∃ s, c.sleeps[id]? = some s ∧ s.listed = true := by
  unfold lists
  rw [Option.any_eq_true]

theorem mem_sleepers_iff : id ∈ c.sleepers ↔ c.lists id = true := by
  unfold sleepers
  rw [List.mem_filter, List.mem_range]
  refine ⟨And.right, fun listed => ⟨?_, listed⟩⟩
  obtain ⟨s, found, -⟩ := lists_eq_true_iff.mp listed
  exact (List.getElem?_eq_some_iff.mp found).1

theorem sorted_sleepers (c : FakeClock W) : c.sleepers.Pairwise (· < ·) :=
  List.pairwise_lt_range.filter _

theorem nodup_sleepers (c : FakeClock W) : c.sleepers.Nodup :=
  c.sorted_sleepers.imp Nat.ne_of_lt

/-- The number of sleeps that the clock tells is the length of its list. -/
theorem pendingSleepers_eq_length (c : FakeClock W) : c.pendingSleepers = c.sleepers.length := by
  have known : ∀ l : List (Sleep W), l.countP (·.listed) =
      ((List.range l.length).filter fun id => (l[id]?).any (·.listed)).length := by
    intro l
    induction l using List.reverseRecOn with
    | nil => rfl
    | append_singleton l s ih =>
      have same : ∀ id ∈ List.range l.length,
          ((l ++ [s])[id]?).any (·.listed) = (l[id]?).any (·.listed) := by
        intro id hid
        rw [List.getElem?_append_left (List.mem_range.mp hid)]
      rw [List.countP_append, List.length_append, List.length_singleton, List.range_succ,
        List.filter_append, List.filter_congr same, List.length_append, ih]
      congr 1
      cases listed : s.listed <;> simp [listed]
  exact known c.sleeps

/-- If no sleep is begun and those stay listed that `p` picks, then it picks them from the list. -/
theorem sleepers_eq_filter {p : SleepId → Bool} (length_eq : c'.sleeps.length = c.sleeps.length)
    (picked : ∀ id, c'.lists id = (c.lists id && p id)) : c'.sleepers = c.sleepers.filter p := by
  unfold sleepers
  rw [length_eq, List.filter_filter]
  refine List.filter_congr fun id _ => ?_
  rw [picked, Bool.and_comm]

theorem lists_set (found : c.sleeps[id]? = some s) (s' : Sleep W) (i : SleepId) :
    ({ c with sleeps := c.sleeps.set id s' } : FakeClock W).lists i =
      if id = i then s'.listed else c.lists i := by
  unfold lists
  by_cases same : id = i
  · subst same
    rw [if_pos rfl]
    show ((c.sleeps.set id s')[id]?).any _ = _
    rw [List.getElem?_set_self (List.getElem?_eq_some_iff.mp found).1]
    rfl
  · rw [if_neg same]
    show ((c.sleeps.set id s')[i]?).any _ = _
    rw [List.getElem?_set_ne same]

theorem lists_sleep (c : FakeClock W) (d : Duration) (known : id < c.sleeps.length) :
    (c.sleep d).1.lists id = c.lists id := by
  unfold lists sleep
  rw [List.getElem?_append_left known]

theorem lists_poll (c : FakeClock W) (id : SleepId) (w : W) (i : SleepId) :
    (c.poll id w).1.lists i = c.lists i := by
  unfold poll
  split
  · rfl
  · rename_i s found
    rw [lists_set found, Sleep.listed_poll]
    split
    · rename_i same
      rw [← same, lists_of_getElem? found]
    · rfl

theorem lists_cancel (found : c.sleeps[id]? = some s) (i : SleepId) :
    (c.cancel id).lists i = if id = i then s.listed && s.completed else c.lists i := by
  rw [cancel_of_getElem? found, lists_set found, Sleep.listed_cancel]

theorem lists_advance (tidy : c.Tidy) {delta : Duration} (moves : delta.isZero = false)
    (id : SleepId) : (c.advance delta).1.lists id =
      (c.lists id && (c.sleeps[id]?).any fun s => decide (c.reached delta < s.deadline)) := by
  unfold lists
  rw [sleeps_advance moves, List.getElem?_map]
  cases found : c.sleeps[id]? with
  | none => rfl
  | some s =>
    rw [Option.map_some, Option.any_some, Option.any_some, Option.any_some,
      Sleep.listed_settle (tidy s (List.mem_of_getElem? found))]

theorem length_poll (c : FakeClock W) (id : SleepId) (w : W) :
    (c.poll id w).1.sleeps.length = c.sleeps.length := by
  unfold poll
  split
  · rfl
  · exact List.length_set

theorem length_cancel (c : FakeClock W) (id : SleepId) :
    (c.cancel id).sleeps.length = c.sleeps.length := by
  unfold cancel
  split
  · rfl
  · exact List.length_set

theorem sleepers_sleep (c : FakeClock W) (d : Duration) :
    (c.sleep d).1.sleepers = c.sleepers ++ if d.isZero then [] else [c.sleeps.length] := by
  have new : (c.sleep d).1.lists c.sleeps.length = !d.isZero := by
    unfold lists sleep
    rw [List.getElem?_concat_length]
    rfl
  have old : ∀ id ∈ List.range c.sleeps.length, (c.sleep d).1.lists id = c.lists id :=
    fun id hid => c.lists_sleep d (List.mem_range.mp hid)
  have one_more : (c.sleep d).1.sleeps.length = c.sleeps.length + 1 := List.length_append
  unfold sleepers
  rw [one_more, List.range_succ, List.filter_append, List.filter_congr old, List.filter_singleton,
    new]
  cases d.isZero <;> rfl

theorem sleepers_poll (c : FakeClock W) (id : SleepId) (w : W) :
    (c.poll id w).1.sleepers = c.sleepers := by
  unfold sleepers
  rw [length_poll]
  exact List.filter_congr fun i _ => c.lists_poll id w i

theorem sleepers_advance (tidy : c.Tidy) {delta : Duration} (moves : delta.isZero = false) :
    (c.advance delta).1.sleepers = c.sleepers.filter fun id =>
      (c.sleeps[id]?).any fun s => decide (c.reached delta < s.deadline) := by
  refine sleepers_eq_filter ?_ fun id => lists_advance tidy moves id
  rw [sleeps_advance moves, List.length_map]

/-! ## Punctual clocks -/

/-- A sleep that is listed is not due, unless the clock has moved by the longest duration. -/
def Punctual (c : FakeClock W) : Prop :=
  ∀ s ∈ c.sleeps, s.listed = true → s.deadline ≤ c.elapsed → c.elapsed = .max

theorem punctual_withOrigin (origin : Instant) : (withOrigin origin : FakeClock W).Punctual :=
  fun _ hs => absurd hs List.not_mem_nil

/-- A sleep that has a length ends later, unless its end would pass the longest duration. -/
theorem eq_max_of_add_le {elapsed d : Duration} (lasts : d.isZero = false)
    (no_later : elapsed + d ≤ elapsed) : elapsed = .max := by
  have some_length : d.toNanos ≠ 0 := by
    intro none_left
    have zero : d = .zero := Duration.toNanos_inj (none_left.trans Duration.toNanos_zero.symm)
    rw [Duration.isZero_iff.mpr zero] at lasts
    cases lasts
  have longest := Duration.le_def.mp (Duration.le_max elapsed)
  rw [Duration.le_def, Duration.toNanos_add] at no_later
  exact Duration.toNanos_inj (by omega)

theorem Punctual.sleep (punctual : c.Punctual) (d : Duration) : (c.sleep d).1.Punctual := by
  intro s hs listed due
  rcases List.mem_append.mp hs with old | new
  · exact punctual s old listed due
  · rw [List.mem_singleton.mp new] at listed due
    exact eq_max_of_add_le (by simpa using listed) due

/-- A clock stays punctual if one of its sleeps is replaced by one that ends at the same time, and is
listed only if the other was. -/
theorem Punctual.set (punctual : c.Punctual) (found : c.sleeps[id]? = some s) {s' : Sleep W}
    (deadline_eq : s'.deadline = s.deadline) (still : s'.listed = true → s.listed = true) :
    ({ c with sleeps := c.sleeps.set id s' } : FakeClock W).Punctual := by
  intro u hu listed due
  rcases List.mem_or_eq_of_mem_set hu with old | rfl
  · exact punctual u old listed due
  · rw [deadline_eq] at due
    exact punctual s (List.mem_of_getElem? found) (still listed) due

theorem Punctual.poll (punctual : c.Punctual) (id : SleepId) (w : W) :
    (c.poll id w).1.Punctual := by
  unfold FakeClock.poll
  split
  · exact punctual
  · rename_i s found
    refine punctual.set found (Sleep.deadline_poll _ w s) fun listed => ?_
    rw [Sleep.listed_poll] at listed
    exact listed

theorem Punctual.cancel (punctual : c.Punctual) (id : SleepId) : (c.cancel id).Punctual := by
  unfold FakeClock.cancel
  split
  · exact punctual
  · rename_i s found
    refine punctual.set found s.deadline_cancel fun listed => ?_
    rw [Sleep.listed_cancel, Bool.and_eq_true] at listed
    exact listed.1

/-- After a move no sleep that is due is listed. -/
theorem punctual_advance (tidy : c.Tidy) {delta : Duration} (moves : delta.isZero = false) :
    (c.advance delta).1.Punctual := by
  intro s' hs' listed due
  rw [sleeps_advance moves] at hs'
  obtain ⟨s, hs, rfl⟩ := List.mem_map.mp hs'
  rw [elapsed_advance moves, Sleep.settle_of_kept (tidy s hs)] at due
  rw [Sleep.settle_of_kept (tidy s hs)] at listed
  split at listed
  · cases listed
  · rename_i kept
    rw [if_neg kept] at due
    exact absurd ⟨listed, due⟩ kept

end FakeClock

namespace Observed

variable {o o' : Observed W} {op : ClockOp W} {id : SleepId} {t : Tale W} {s : Sleep W}

theorem Faithful.tidy (faithful : o.Faithful) : o.clock.Tidy := by
  intro s hs
  obtain ⟨id, found⟩ := List.mem_iff_getElem?.mp hs
  obtain ⟨t, -, fits⟩ := faithful.exists_tale found
  exact fits.unlisted_of_cancelled

theorem Faithful.punctual_does (faithful : o.Faithful) (punctual : o.clock.Punctual)
    (does : op.Does o o') : o'.clock.Punctual := by
  cases does with
  | sleep d => exact punctual.sleep d
  | poll held w => exact punctual.poll _ w
  | drop held => exact punctual.cancel _
  | advance moves => exact FakeClock.punctual_advance faithful.tidy moves
  | nothing _ => exact punctual

theorem Faithful.punctual_run (faithful : o.Faithful) (punctual : o.clock.Punctual)
    (ops : List (ClockOp W)) : (Observed.run ops o).clock.Punctual := by
  induction ops generalizing o with
  | nil => exact punctual
  | cons op ops ih =>
    exact ih (faithful.perform op) (faithful.punctual_does punctual (op.does_perform o))

/-! ## Who is on the list -/

theorem isHeld_iff : o.isHeld id = true ↔ ∃ t, o.tale? id = some t ∧ t.dropped = false := by
  unfold isHeld
  rw [Bool.and_eq_true, decide_eq_true_eq, Bool.not_eq_true']
  constructor
  · rintro ⟨known, kept⟩
    exact ⟨_, tale?_eq_some_iff.mpr ⟨_, List.getElem?_eq_getElem known, rfl⟩, kept⟩
  · rintro ⟨t, told, kept⟩
    obtain ⟨b, known, rfl⟩ := tale?_eq_some_iff.mp told
    exact ⟨(List.getElem?_eq_some_iff.mp known).1, kept⟩

/-- Before the longest duration, a sleep is listed just if it is not dropped and still has to wait. -/
theorem Faithful.lists_iff (faithful : o.Faithful) (punctual : o.clock.Punctual)
    (early : o.clock.elapsed < .max) : o.clock.lists id = true ↔
      ∃ t, o.tale? id = some t ∧ t.dropped = false ∧ o.clock.elapsed < t.deadline := by
  have before : ∀ {s : Sleep W}, o.clock.sleeps[id]? = some s → s.listed = true →
      ¬ s.deadline ≤ o.clock.elapsed := by
    intro s found listed due
    have latest := punctual s (List.mem_of_getElem? found) listed due
    rw [latest] at early
    exact Nat.lt_irrefl _ early
  rw [FakeClock.lists_eq_true_iff]
  constructor
  · rintro ⟨s, found, listed⟩
    obtain ⟨t, told, fits⟩ := faithful.exists_tale found
    refine ⟨t, told, ?_, ?_⟩
    · exact Bool.eq_false_iff.mpr fun dropped =>
        before found listed (fits.due_of_dropped listed dropped)
    · rw [← fits.deadline_eq]
      exact Nat.lt_of_not_le (before found listed)
  · rintro ⟨t, told, kept, waits⟩
    obtain ⟨s, found, fits⟩ := faithful.exists_sleep told
    refine ⟨s, found, ?_⟩
    cases listed : s.listed with
    | true => rfl
    | false =>
      rcases fits.over_of_unlisted listed with due | dropped
      · rw [fits.deadline_eq] at due
        exact absurd due (Nat.not_le.mpr waits)
      · rw [kept] at dropped
        cases dropped

/-- A sleep that is not listed is never listed again. -/
theorem lists_of_does (does : op.Does o o') (known : id < o.clock.sleeps.length)
    (tidy : o.clock.Tidy) (listed : o'.clock.lists id = true) : o.clock.lists id = true := by
  cases does with
  | sleep d =>
    rw [FakeClock.lists_sleep _ d known] at listed
    exact listed
  | poll held w =>
    rw [FakeClock.lists_poll] at listed
    exact listed
  | @drop i held =>
    cases found : o.clock.sleeps[i]? with
    | none =>
      unfold FakeClock.cancel at listed
      rw [found] at listed
      exact listed
    | some s =>
      rw [FakeClock.lists_cancel found] at listed
      split at listed
      · rename_i same
        rw [← same, FakeClock.lists_of_getElem? found]
        exact (Bool.and_eq_true _ _ ▸ listed).1
      · exact listed
  | advance moves =>
    rw [FakeClock.lists_advance tidy moves, Bool.and_eq_true] at listed
    exact listed.1
  | nothing _ => exact listed

theorem length_mono_does (does : op.Does o o') :
    o.clock.sleeps.length ≤ o'.clock.sleeps.length := by
  cases does with
  | sleep d => exact (List.sublist_append_left _ _).length_le
  | poll held w => exact Nat.le_of_eq (FakeClock.length_poll _ _ w).symm
  | drop held => exact Nat.le_of_eq (FakeClock.length_cancel _ _).symm
  | advance moves =>
    have settled := congrArg List.length (FakeClock.sleeps_advance (c := o.clock) moves)
    rw [List.length_map] at settled
    exact Nat.le_of_eq settled.symm
  | nothing _ => exact Nat.le_refl _

theorem Faithful.lists_of_run (faithful : o.Faithful) (known : id < o.clock.sleeps.length)
    (ops : List (ClockOp W)) (listed : (Observed.run ops o).clock.lists id = true) :
    o.clock.lists id = true := by
  induction ops generalizing o with
  | nil => exact listed
  | cons op ops ih =>
    have does := op.does_perform o
    have longer := Nat.lt_of_lt_of_le known (length_mono_does does)
    exact lists_of_does does known faithful.tidy (ih (faithful.perform op) longer listed)

/-! ## The list is exact -/

/-- What is to be said of the list of sleeps that a clock keeps. -/
structure SleepersExact (o : Observed W) : Prop where
  /-- Those are listed that were not dropped and still have to wait, -/
  mem_iff : ∀ id, id ∈ o.clock.sleepers ↔
    ∃ t, o.tale? id = some t ∧ t.dropped = false ∧ o.clock.elapsed < t.deadline
  /-- each once and in the order of their creation. -/
  sorted : o.clock.sleepers.Pairwise (· < ·)
  /-- They are as many as the clock tells, -/
  count : o.clock.pendingSleepers = o.clock.sleepers.length
  /-- and they are just the sleeps that are held and not ready when polled. -/
  pending : ∀ w, o.clock.sleepers =
    (List.range o.begun.length).filter fun id => o.isHeld id && !(o.clock.poll id w).2
  /-- A sleep that is begun is put at the end, if it has a length. -/
  begun : ∀ d, ((ClockOp.sleep d).perform o).clock.sleepers =
    o.clock.sleepers ++ if d.isZero then [] else [o.begun.length]
  polled : ∀ id w, ((ClockOp.poll id w).perform o).clock.sleepers = o.clock.sleepers
  /-- A sleep that is dropped is taken from the list, if it is there, and no other is. -/
  dropped : ∀ id, ((ClockOp.drop id).perform o).clock.sleepers = o.clock.sleepers.erase id
  /-- A move takes those from the list whose end it reaches. -/
  moved : ∀ delta, ((ClockOp.advance delta).perform o).clock.sleepers =
    o.clock.sleepers.filter fun id => (o.tale? id).any fun t =>
      decide (((ClockOp.advance delta).perform o).clock.elapsed < t.deadline)
  /-- A sleep that was dropped or is over is not listed, whatever is done from then on. -/
  ended : ∀ id t, o.tale? id = some t → (t.dropped = true ∨ t.deadline ≤ o.clock.elapsed) →
    ∀ ops, id ∉ (run ops o).clock.sleepers

theorem Faithful.sleepers_drop (faithful : o.Faithful) (punctual : o.clock.Punctual)
    (early : o.clock.elapsed < .max) (id : SleepId) :
    ((ClockOp.drop id).perform o).clock.sleepers = o.clock.sleepers.erase id := by
  by_cases held : o.isHeld id = true
  · obtain ⟨s, found⟩ := faithful.exists_of_isHeld held
    obtain ⟨t, told, fits⟩ := faithful.exists_tale found
    rw [perform_drop held, (FakeClock.nodup_sleepers _).erase_eq_filter]
    refine FakeClock.sleepers_eq_filter (FakeClock.length_cancel _ _) fun i => ?_
    show (o.clock.cancel id).lists i = _
    rw [FakeClock.lists_cancel found]
    by_cases same : id = i
    · subst same
      -- were it listed and known to be over, it would be due
      have unlisted : (s.listed && s.completed) = false := by
        refine Bool.eq_false_iff.mpr fun both => ?_
        rw [Bool.and_eq_true] at both
        have latest := punctual s (List.mem_of_getElem? found) both.1
          (fits.due both.2)
        rw [latest] at early
        exact Nat.lt_irrefl _ early
      simp [unlisted]
    · have other : (i != id) = true := bne_iff_ne.mpr (Ne.symm same)
      rw [if_neg same, other, Bool.and_true]
  · have absent : id ∉ o.clock.sleepers := by
      intro present
      obtain ⟨t, told, kept, -⟩ :=
        (faithful.lists_iff punctual early).mp (FakeClock.mem_sleepers_iff.mp present)
      exact held (isHeld_iff.mpr ⟨t, told, kept⟩)
    rw [perform_drop_of_not_held held, List.erase_of_not_mem absent]

theorem Faithful.sleepers_advance (faithful : o.Faithful) (punctual : o.clock.Punctual)
    (early : o.clock.elapsed < .max) (delta : Duration) :
    ((ClockOp.advance delta).perform o).clock.sleepers =
      o.clock.sleepers.filter fun id => (o.tale? id).any fun t =>
        decide (((ClockOp.advance delta).perform o).clock.elapsed < t.deadline) := by
  cases still : delta.isZero with
  | true =>
    rw [Duration.isZero_iff.mp still, perform_advance_zero]
    refine (List.filter_eq_self.mpr fun id present => ?_).symm
    obtain ⟨t, told, -, waits⟩ :=
      (faithful.lists_iff punctual early).mp (FakeClock.mem_sleepers_iff.mp present)
    rw [told, Option.any_some]
    exact decide_eq_true waits
  | false =>
    rw [perform_advance still, FakeClock.sleepers_advance faithful.tidy still,
      FakeClock.elapsed_advance still]
    refine List.filter_congr fun id present => ?_
    obtain ⟨s, found, -⟩ := FakeClock.lists_eq_true_iff.mp (FakeClock.mem_sleepers_iff.mp present)
    obtain ⟨t, told, fits⟩ := faithful.exists_tale found
    rw [found, told, Option.any_some, Option.any_some, fits.deadline_eq]

/-- In every run, until the clock has moved by the longest duration, its list holds just the sleeps
that are not dropped and still have to wait. -/
theorem sleepers_exactly {origin : Instant} {ops : List (ClockOp W)}
    (early : (run ops (start origin)).clock.elapsed < .max) :
    SleepersExact (run ops (start origin)) := by
  have faithful : (run ops (start origin)).Faithful := faithful_run origin ops
  have punctual : (run ops (start origin)).clock.Punctual :=
    (faithful_start origin).punctual_run (FakeClock.punctual_withOrigin origin) ops
  generalize run ops (start origin) = o at early faithful punctual
  have listed_iff : ∀ id, o.clock.lists id = true ↔
      ∃ t, o.tale? id = some t ∧ t.dropped = false ∧ o.clock.elapsed < t.deadline :=
    fun id => faithful.lists_iff punctual early
  constructor
  case mem_iff => exact fun id => FakeClock.mem_sleepers_iff.trans (listed_iff id)
  case sorted => exact o.clock.sorted_sleepers
  case count => exact o.clock.pendingSleepers_eq_length
  case pending =>
    intro w
    unfold FakeClock.sleepers
    rw [faithful.length_eq]
    refine List.filter_congr fun id _ => Bool.eq_iff_iff.mpr ?_
    rw [listed_iff, Bool.and_eq_true, isHeld_iff, Bool.not_eq_true', ← Bool.not_eq_true]
    constructor
    · rintro ⟨t, told, kept, waits⟩
      rw [faithful.ready_iff told]
      exact ⟨⟨t, told, kept⟩, Nat.not_le.mpr waits⟩
    · rintro ⟨⟨t, told, kept⟩, unready⟩
      rw [faithful.ready_iff told] at unready
      exact ⟨t, told, kept, Nat.lt_of_not_le unready⟩
  case begun =>
    intro d
    rw [perform_sleep, FakeClock.sleepers_sleep, faithful.length_eq]
  case polled =>
    intro id w
    by_cases held : o.isHeld id = true
    · rw [perform_poll held, FakeClock.sleepers_poll]
    · rw [perform_poll_of_not_held held]
  case dropped => exact faithful.sleepers_drop punctual early
  case moved => exact faithful.sleepers_advance punctual early
  case ended =>
    intro id t told gone later present
    obtain ⟨s, found, -⟩ := faithful.exists_sleep told
    have known : id < o.clock.sleeps.length := (List.getElem?_eq_some_iff.mp found).1
    have listed := faithful.lists_of_run known later (FakeClock.mem_sleepers_iff.mp present)
    obtain ⟨t', told', kept, waits⟩ := (listed_iff id).mp listed
    cases told.symm.trans told'
    rcases gone with dropped | due
    · rw [kept] at dropped
      cases dropped
    · exact absurd due (Nat.not_le.mpr waits)

/-- Three sleeps are begun, one of them without a length, another is dropped, and the clock moves. -/
theorem sleepers_of_three :
    (run [.sleep (.ofNanos 3), .sleep .zero, .sleep (.ofNanos 1), .poll 0 (), .drop 2,
        .advance (.ofNanos 2)] (start default)).clock.elapsed < .max ∧
      SleepersExact (run [.sleep (.ofNanos 3), .sleep .zero, .sleep (.ofNanos 1), .poll 0 (), .drop 2,
        .advance (.ofNanos 2)] (start default)) := by
  have early : (run [.sleep (.ofNanos 3), .sleep .zero, .sleep (.ofNanos 1), .poll 0 (), .drop 2,
      .advance (.ofNanos 2)] (start default)).clock.elapsed < .max := by decide +kernel
  exact ⟨early, sleepers_exactly early⟩

end Observed

end HostBench
