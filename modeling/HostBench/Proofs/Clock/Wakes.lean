/-
  Who is woken when a clock moves. By the tales alone, a sleep rings when the clock reaches its end and
  its last poll was not ready, and it wakes the one who polled it last (`Observed.ring?`). A clock wakes
  just those (`Faithful.woken_eq`), and a sleep that rings ends between the time before the move and the
  time after it (`Faithful.due_of_ring`), so it rings once.

  `wakes_exactly` says so of every run: who is woken in each move and in what order, that no sleep rings
  twice, and that of those left waiting none whose end is reached is forgotten.
-/
import HostBench.Proofs.Clock.Tale
import HostBench.Proofs.Basics

namespace HostBench

variable {W : Type}

/-- The clock still waits on behalf of a sleep. -/
def FakeClock.lists (c : FakeClock W) (id : SleepId) : Bool := (c.sleeps[id]?).any (·.listed)

theorem FakeClock.lists_of_getElem? {c : FakeClock W} {id : SleepId} {s : Sleep W}
    (found : c.sleeps[id]? = some s) : c.lists id = s.listed := by
  unfold FakeClock.lists
  rw [found]
  rfl

namespace Observed

/-- Whom a sleep wakes when the clock moves to `elapsed`: the one for whom it was polled last, if that
poll was not ready. The sleep has to be listed, not dropped, and due. -/
def ring? (o : Observed W) (elapsed : Duration) (id : SleepId) : Option W :=
  (o.tale? id).bind fun t =>
    if o.clock.lists id && !t.dropped && t.deadline ≤ elapsed then t.waiting else none

/-- All sleeps that ring when the clock moves to `elapsed`, in the order of their creation, each with
the one that it wakes. -/
def rings (o : Observed W) (elapsed : Duration) : List (SleepId × W) :=
  (List.range o.begun.length).filterMap fun id => (o.ring? elapsed id).map (Prod.mk id)

end Observed

/-- The sleeps that ring when something is done with the clock. -/
def ClockOp.rings (op : ClockOp W) (o : Observed W) : List (SleepId × W) :=
  match op with
  | .advance delta => if delta.isZero then [] else o.rings (o.clock.reached delta)
  | _ => []

namespace Observed

/-- The sleeps that ring in the course of a run. -/
def rung : List (ClockOp W) → Observed W → List (SleepId × W)
  | [], _ => []
  | op :: ops, o => op.rings o ++ rung ops (op.perform o)

variable {o o' : Observed W} {op : ClockOp W} {id : SleepId} {w : W} {elapsed : Duration} {t : Tale W}
  {s : Sleep W}

theorem rung_append (ops ops' : List (ClockOp W)) (o : Observed W) :
    rung (ops ++ ops') o = rung ops o ++ rung ops' (run ops o) := by
  induction ops generalizing o with
  | nil => rfl
  | cons op ops ih =>
    show op.rings o ++ rung (ops ++ ops') (op.perform o) = _
    rw [ih, ← List.append_assoc]
    rfl

/-! ## One move -/

theorem ring?_eq_some_iff :
    o.ring? elapsed id = some w ↔ ∃ t, o.tale? id = some t ∧ o.clock.lists id = true ∧
      t.dropped = false ∧ t.deadline ≤ elapsed ∧ t.lastPoll = some (w, false) := by
  unfold ring?
  rw [Option.bind_eq_some_iff]
  refine exists_congr fun t => and_congr_right fun _ => ?_
  rw [Option.ite_none_right_eq_some, Tale.waiting_eq_some_iff]
  simp [and_assoc]

theorem mem_rings_iff : (id, w) ∈ o.rings elapsed ↔ o.ring? elapsed id = some w := by
  unfold rings
  rw [List.mem_filterMap]
  constructor
  · rintro ⟨i, -, rings⟩
    obtain ⟨v, rings, same⟩ := Option.map_eq_some_iff.mp rings
    cases same
    exact rings
  · intro rings
    obtain ⟨t, told, -⟩ := ring?_eq_some_iff.mp rings
    obtain ⟨b, known, -⟩ := tale?_eq_some_iff.mp told
    exact ⟨id, List.mem_range.mpr (List.getElem?_eq_some_iff.mp known).1, by rw [rings]; rfl⟩

theorem rings_sorted (o : Observed W) (elapsed : Duration) :
    ((o.rings elapsed).map Prod.fst).Pairwise (· < ·) := by
  unfold rings
  rw [List.pairwise_map, List.pairwise_filterMap]
  refine List.pairwise_lt_range.imp fun {i j} before => ?_
  intro a ha b hb
  obtain ⟨v, -, rfl⟩ := Option.map_eq_some_iff.mp ha
  obtain ⟨v', -, rfl⟩ := Option.map_eq_some_iff.mp hb
  exact before

/-- A sleep wakes whom its tale says. -/
theorem wakes_eq_ring? (fits : s.Fits o.clock.elapsed t)
    (found : o.clock.sleeps[id]? = some s) (told : o.tale? id = some t) (later : Duration) :
    s.wakes later = o.ring? later id := by
  unfold ring? Sleep.wakes
  rw [told, Option.bind_some, FakeClock.lists_of_getElem? found, fits.deadline_eq]
  cases listed : s.listed with
  | false => rfl
  | true =>
    have kept : s.cancelled = false := by
      refine Bool.eq_false_iff.mpr fun cancelled => ?_
      rw [fits.unlisted_of_cancelled cancelled] at listed
      cases listed
    rw [kept, fits.waker_eq listed]
    cases dropped : t.dropped with
    | false => rfl
    | true =>
      have unawaited := fits.unawaited_of_due listed (fits.due_of_dropped listed dropped)
      rw [fits.waker_eq listed] at unawaited
      rw [unawaited, ite_self]
      rfl

/-- A clock that moves wakes just those that the tales say. -/
theorem Faithful.woken_eq (faithful : o.Faithful) {delta : Duration} (moves : delta.isZero = false) :
    (o.clock.advance delta).2 = (o.rings (o.clock.reached delta)).map Prod.snd := by
  have woken : (o.clock.advance delta).2 =
      o.clock.sleeps.filterMap (·.wakes (o.clock.reached delta)) := by
    unfold FakeClock.advance
    rw [if_neg (Bool.eq_false_iff.mp moves)]
  unfold rings
  rw [woken, filterMap_eq_range, List.map_filterMap, faithful.length_eq]
  refine List.filterMap_congr fun id hid => ?_
  have listed : id < o.clock.sleeps.length := by
    rw [faithful.length_eq]
    exact List.mem_range.mp hid
  obtain ⟨t, told, fits⟩ := faithful.exists_tale (List.getElem?_eq_getElem listed)
  rw [List.getElem?_eq_getElem listed, Option.bind_some,
    wakes_eq_ring? fits (List.getElem?_eq_getElem listed) told, Option.map_map]
  exact Option.map_id'.symm

/-- A sleep that rings ends in the time that the clock moves. -/
theorem Faithful.due_of_ring (faithful : o.Faithful) (told : o.tale? id = some t)
    (rings : o.ring? elapsed id = some w) : o.clock.elapsed < t.deadline ∧ t.deadline ≤ elapsed := by
  obtain ⟨t', told', listed, -, due, waits⟩ := ring?_eq_some_iff.mp rings
  cases told.symm.trans told'
  obtain ⟨s, found, fits⟩ := faithful.exists_sleep told
  rw [FakeClock.lists_of_getElem? found] at listed
  refine ⟨Nat.lt_of_not_le fun early => ?_, due⟩
  have unawaited := fits.unawaited_of_due listed (by rw [fits.deadline_eq]; exact early)
  rw [fits.waker_eq listed, Tale.waiting_eq_some_iff.mpr waits] at unawaited
  cases unawaited

/-- A sleep that is left waiting rings when the clock reaches its end. -/
theorem Faithful.ring_of_waiting (faithful : o.Faithful) (told : o.tale? id = some t)
    (kept : t.dropped = false) (waits : t.lastPoll = some (w, false))
    (early : o.clock.elapsed < t.deadline) (due : t.deadline ≤ elapsed) :
    o.ring? elapsed id = some w := by
  obtain ⟨s, found, fits⟩ := faithful.exists_sleep told
  refine ring?_eq_some_iff.mpr ⟨t, told, ?_, kept, due, waits⟩
  rw [FakeClock.lists_of_getElem? found]
  refine Bool.of_not_eq_false fun unlisted => ?_
  rcases fits.over_of_unlisted unlisted with ended | dropped
  · rw [fits.deadline_eq] at ended
    exact absurd ended (Nat.not_le.mpr early)
  · rw [kept] at dropped
    cases dropped

/-! ## A whole run -/

theorem rings_advance {delta : Duration} (moves : delta.isZero = false) (o : Observed W) :
    (ClockOp.advance delta).rings o = o.rings (o.clock.reached delta) :=
  if_neg (Bool.eq_false_iff.mp moves)

theorem rings_advance_zero (o : Observed W) : (ClockOp.advance .zero).rings o = [] := rfl

/-- Sleeps ring in the order of their creation. -/
theorem sorted_rings (op : ClockOp W) (o : Observed W) :
    ((op.rings o).map Prod.fst).Pairwise (· < ·) := by
  cases op with
  | advance delta =>
    cases still : delta.isZero with
    | true =>
      rw [Duration.isZero_iff.mp still, rings_advance_zero]
      exact .nil
    | false =>
      rw [rings_advance still]
      exact rings_sorted _ _
  | _ => exact .nil

theorem rings_of_idle (idle : ∀ delta, op = .advance delta → delta.isZero = true) (o : Observed W) :
    op.rings o = [] := by
  cases op with
  | advance delta => exact if_pos (idle delta rfl)
  | _ => rfl

theorem Faithful.woken_does (faithful : o.Faithful) (does : op.Does o o') :
    o'.sights.filterMap Sight.woke? =
      o.sights.filterMap Sight.woke? ++ (op.rings o).map Prod.snd := by
  cases does with
  | sleep d => exact List.filterMap_append
  | poll held w => exact List.filterMap_append
  | drop held => exact List.filterMap_append
  | @advance delta moves =>
    have woken : (Sight.ofWoken (o.clock.advance delta).2).filterMap Sight.woke? =
        (o.clock.advance delta).2 := by
      unfold Sight.ofWoken
      rw [List.filterMap_cons_none rfl, List.filterMap_map]
      exact List.filterMap_some
    rw [List.filterMap_append, woken, faithful.woken_eq moves, rings_advance moves]
  | nothing idle =>
    rw [rings_of_idle idle]
    exact (List.append_nil _).symm

/-- Those who are woken in a run are those for whom sleeps ring. -/
theorem Faithful.woken_run (faithful : o.Faithful) (ops : List (ClockOp W)) :
    (Observed.run ops o).sights.filterMap Sight.woke? =
      o.sights.filterMap Sight.woke? ++ (rung ops o).map Prod.snd := by
  induction ops generalizing o with
  | nil => exact (List.append_nil _).symm
  | cons op ops ih =>
    show (Observed.run ops (op.perform o)).sights.filterMap Sight.woke? = _
    rw [ih (faithful.perform op), faithful.woken_does (op.does_perform o), List.append_assoc,
      ← List.map_append]
    rfl

theorem Faithful.due_of_mem_rings (faithful : o.Faithful) (does : op.Does o o')
    (rings : (id, w) ∈ op.rings o) : ∃ t, o.tale? id = some t ∧ t.dropped = false ∧
      t.lastPoll = some (w, false) ∧ o.clock.elapsed < t.deadline ∧ t.deadline ≤ o'.clock.elapsed := by
  cases does with
  | sleep d => cases rings
  | poll held w => cases rings
  | drop held => cases rings
  | advance moves =>
    rw [rings_advance moves, mem_rings_iff] at rings
    obtain ⟨t, told, -, kept, -, waits⟩ := ring?_eq_some_iff.mp rings
    obtain ⟨early, due⟩ := faithful.due_of_ring told rings
    rw [FakeClock.elapsed_advance moves]
    exact ⟨t, told, kept, waits, early, due⟩
  | nothing idle =>
    rw [rings_of_idle idle] at rings
    cases rings

/-- A sleep that has rung in a run has come to its end in it, and was polled. -/
theorem Faithful.over_of_mem_rung (faithful : o.Faithful) {ops : List (ClockOp W)}
    (rang : (id, w) ∈ rung ops o) : ∃ t, (Observed.run ops o).tale? id = some t ∧
      t.deadline ≤ (Observed.run ops o).clock.elapsed ∧ t.lastPoll.isSome = true := by
  induction ops generalizing o with
  | nil => cases rang
  | cons op ops ih =>
    rcases List.mem_append.mp rang with first | later
    · obtain ⟨t, told, -, waits, -, due⟩ := faithful.due_of_mem_rings (op.does_perform o) first
      obtain ⟨t', told', onward⟩ := faithful.onward_run told (op :: ops)
      refine ⟨t', told', ?_, onward.polled (by rw [waits]; rfl)⟩
      rw [onward.deadline_eq]
      exact Nat.le_trans due ((faithful.perform op).le_elapsed_run ops)
    · exact ih (faithful.perform op) later

/-- A sleep that rings in a run was neither over nor dropped before. -/
theorem Faithful.early_of_mem_rung (faithful : o.Faithful) {ops : List (ClockOp W)}
    (rang : (id, w) ∈ rung ops o) (told : o.tale? id = some t) :
    o.clock.elapsed < t.deadline ∧ t.dropped = false := by
  induction ops generalizing o t with
  | nil => cases rang
  | cons op ops ih =>
    rcases List.mem_append.mp rang with first | later
    · obtain ⟨t', told', kept, -, early, -⟩ := faithful.due_of_mem_rings (op.does_perform o) first
      cases told.symm.trans told'
      exact ⟨early, kept⟩
    · obtain ⟨t', told', onward⟩ := faithful.onward_does told (op.does_perform o)
      obtain ⟨early, kept⟩ := ih (faithful.perform op) later told'
      rw [onward.deadline_eq] at early
      refine ⟨Nat.lt_of_le_of_lt (faithful.le_elapsed_does (op.does_perform o)) early, ?_⟩
      refine Bool.eq_false_iff.mpr fun dropped => ?_
      rw [onward.dropped dropped] at kept
      cases kept

/-- No sleep rings twice. -/
theorem Faithful.nodup_rung (faithful : o.Faithful) (ops : List (ClockOp W)) :
    ((rung ops o).map Prod.fst).Nodup := by
  induction ops generalizing o with
  | nil => exact List.nodup_nil
  | cons op ops ih =>
    have first : ((op.rings o).map Prod.fst).Nodup := (sorted_rings op o).imp Nat.ne_of_lt
    show ((op.rings o ++ rung ops (op.perform o)).map Prod.fst).Nodup
    rw [List.map_append, List.nodup_append]
    refine ⟨first, ih (faithful.perform op), ?_⟩
    -- what rings now is over after that, and does not ring again
    rintro i hi j hj rfl
    obtain ⟨⟨_, w⟩, now, rfl⟩ := List.mem_map.mp hi
    obtain ⟨⟨_, w'⟩, later, same⟩ := List.mem_map.mp hj
    cases same
    obtain ⟨t, told, -, -, -, due⟩ := faithful.due_of_mem_rings (op.does_perform o) now
    obtain ⟨t', told', onward⟩ := faithful.onward_does told (op.does_perform o)
    obtain ⟨early, -⟩ := (faithful.perform op).early_of_mem_rung later told'
    rw [onward.deadline_eq] at early
    exact absurd due (Nat.not_le.mpr early)

/-- Each sleep that is left waiting although its end is reached is among those that rang. -/
def Answered (o : Observed W) (rang : List (SleepId × W)) : Prop :=
  ∀ id t w, o.tale? id = some t → t.dropped = false → t.lastPoll = some (w, false) →
    t.deadline ≤ o.clock.elapsed → (id, w) ∈ rang

/-- Whatever is done, those left waiting are answered in time. -/
theorem Answered.does {rang : List (SleepId × W)} (answered : o.Answered rang)
    (faithful : o.Faithful) (does : op.Does o o') : o'.Answered (rang ++ op.rings o) := by
  intro id t w told kept waits due
  cases does with
  | sleep d =>
    rw [faithful.tale?_begun] at told
    by_cases new : id = o.begun.length
    · rw [if_pos new] at told
      cases told
      cases waits
    · rw [if_neg new] at told
      exact List.mem_append_left _ (answered id t w told kept waits due)
  | @poll i held v =>
    rw [FakeClock.elapsed_poll] at due
    rw [tale?_polled, Option.map_eq_some_iff] at told
    obtain ⟨t', told, rfl⟩ := told
    by_cases same : i = id
    · -- the last poll is the present one, and it would have been ready
      subst same
      rw [if_pos rfl] at waits due
      have ready := (faithful.ready_iff told v).mpr due
      rw [ready] at waits
      cases waits
    · rw [if_neg same] at kept waits due
      exact List.mem_append_left _ (answered id t' w told kept waits due)
  | @drop i held =>
    rw [FakeClock.elapsed_cancel] at due
    rw [tale?_dropped, Option.map_eq_some_iff] at told
    obtain ⟨t', told, rfl⟩ := told
    by_cases same : i = id
    · rw [if_pos same] at kept
      cases kept
    · rw [if_neg same] at kept waits due
      exact List.mem_append_left _ (answered id t' w told kept waits due)
  | advance moves =>
    rw [tale?_woken] at told
    rw [rings_advance moves]
    by_cases ended : t.deadline ≤ o.clock.elapsed
    · exact List.mem_append_left _ (answered id t w told kept waits ended)
    · refine List.mem_append_right _ (mem_rings_iff.mpr ?_)
      rw [← FakeClock.elapsed_advance moves]
      exact faithful.ring_of_waiting told kept waits (Nat.lt_of_not_le ended) due
  | nothing _ => exact List.mem_append_left _ (answered id t w told kept waits due)

theorem Answered.run {rang : List (SleepId × W)} (answered : o.Answered rang)
    (faithful : o.Faithful) (ops : List (ClockOp W)) :
    (Observed.run ops o).Answered (rang ++ rung ops o) := by
  induction ops generalizing o rang with
  | nil =>
    show o.Answered (rang ++ [])
    rw [List.append_nil]
    exact answered
  | cons op ops ih =>
    have first := answered.does faithful (op.does_perform o)
    have rest := ih first (faithful.perform op)
    rw [List.append_assoc] at rest
    exact rest

/-- What is to be said of the wakes of a run that has come to `o`, and of the next move of the clock. -/
structure WakesExactly (origin : Instant) (ops : List (ClockOp W)) (o : Observed W) : Prop where
  /-- A move rings the sleeps that are listed, not dropped and due after it, and whose last poll was not
  ready; each wakes the one for whom that poll was. -/
  ring_iff : ∀ delta id w, delta.isZero = false →
    ((id, w) ∈ (ClockOp.advance delta).rings o ↔
      ∃ t, o.tale? id = some t ∧ o.clock.lists id = true ∧ t.dropped = false ∧
        t.deadline ≤ ((ClockOp.advance delta).perform o).clock.elapsed ∧
        t.lastPoll = some (w, false))
  /-- It rings them in the order of their creation, each once, -/
  sorted : ∀ delta, (((ClockOp.advance delta).rings o).map Prod.fst).Pairwise (· < ·)
  /-- and all that is seen of it is a report of how many it wakes, and these wakes. -/
  seen : ∀ delta, delta.isZero = false → ((ClockOp.advance delta).perform o).sights =
    o.sights ++ Sight.ofWoken (((ClockOp.advance delta).rings o).map Prod.snd)
  idle : (ClockOp.advance .zero).perform o = o
  /-- Those who were woken in all the run are those for whom sleeps rang, -/
  woken : o.sights.filterMap Sight.woke? = (rung ops (start origin)).map Prod.snd
  /-- and each sleep rang once at most. -/
  once : ((rung ops (start origin)).map Prod.fst).Nodup
  /-- A sleep that is left waiting rings in the move that reaches its end. -/
  reached : ∀ delta id t w, o.tale? id = some t → t.dropped = false →
    t.lastPoll = some (w, false) → o.clock.elapsed < t.deadline →
    t.deadline ≤ ((ClockOp.advance delta).perform o).clock.elapsed →
    (id, w) ∈ (ClockOp.advance delta).rings o
  answered : o.Answered (rung ops (start origin))
  /-- A sleep that is dropped before its end rings neither before that nor after it. -/
  dropped : ∀ id t ops' w, o.tale? id = some t → o.clock.elapsed < t.deadline →
    (id, w) ∉ rung (ops ++ .drop id :: ops') (start origin)
  unpolled : ∀ id t w, o.tale? id = some t → t.lastPoll = none → (id, w) ∉ rung ops (start origin)

/-- A sleep that was dropped before its end has not rung, and will not. -/
theorem not_mem_rung_of_dropped {origin : Instant} {ops : List (ClockOp W)}
    (told : (run ops (start origin)).tale? id = some t)
    (early : (run ops (start origin)).clock.elapsed < t.deadline) (ops' : List (ClockOp W)) (w : W) :
    (id, w) ∉ rung (ops ++ .drop id :: ops') (start origin) := by
  have faithful : (run ops (start origin)).Faithful := faithful_run origin ops
  intro rang
  rw [rung_append] at rang
  rcases List.mem_append.mp rang with before | after
  · obtain ⟨t', told', ended, -⟩ := (faithful_start origin).over_of_mem_rung before
    cases told.symm.trans told'
    exact absurd ended (Nat.not_le.mpr early)
  · have later : (id, w) ∈ rung ops' ((ClockOp.drop id).perform (run ops (start origin))) := after
    by_cases held : (run ops (start origin)).isHeld id = true
    · rw [perform_drop held] at later
      have told' := tale?_dropped ((run ops (start origin)).clock.cancel id) (run ops (start origin)) id id
      rw [told, Option.map_some, if_pos rfl] at told'
      have drops := faithful.perform (.drop id)
      rw [perform_drop held] at drops
      obtain ⟨-, kept⟩ := drops.early_of_mem_rung later told'
      cases kept
    · rw [perform_drop_of_not_held held] at later
      obtain ⟨-, kept⟩ := faithful.early_of_mem_rung later told
      -- a sleep that has a tale and is not held was dropped before
      obtain ⟨b, known, rfl⟩ := tale?_eq_some_iff.mp told
      refine held ?_
      unfold isHeld
      rw [Bool.and_eq_true, decide_eq_true_eq, Bool.not_eq_true']
      exact ⟨(List.getElem?_eq_some_iff.mp known).1, kept⟩

/-- In every run a clock wakes just those that wait for a sleep whose end it reaches, once for each
sleep, in the order in which the sleeps were begun. -/
theorem wakes_exactly (origin : Instant) (ops : List (ClockOp W)) :
    WakesExactly origin ops (run ops (start origin)) := by
  have faithful : (run ops (start origin)).Faithful := faithful_run origin ops
  have moved : ∀ {delta : Duration}, delta.isZero = false →
      ((ClockOp.advance delta).perform (run ops (start origin))).clock.elapsed =
        (run ops (start origin)).clock.reached delta := by
    intro delta still
    rw [perform_advance still, FakeClock.elapsed_advance still]
  constructor
  case ring_iff =>
    intro delta id w still
    rw [rings_advance still, mem_rings_iff, ring?_eq_some_iff, moved still]
  case sorted => exact fun delta => sorted_rings _ _
  case seen =>
    intro delta still
    rw [perform_advance still, faithful.woken_eq still, rings_advance still]
  case idle => exact perform_advance_zero _
  case woken => exact (faithful_start origin).woken_run ops
  case once => exact (faithful_start origin).nodup_rung ops
  case reached =>
    intro delta id t w told kept waits early due
    cases still : delta.isZero with
    | true =>
      rw [Duration.isZero_iff.mp still, perform_advance_zero] at due
      exact absurd due (Nat.not_le.mpr early)
    | false =>
      rw [moved still] at due
      rw [rings_advance still, mem_rings_iff]
      exact faithful.ring_of_waiting told kept waits early due
  case answered =>
    have nothing : (start origin : Observed W).Answered [] := fun id t w told => by cases told
    exact nothing.run (faithful_start origin) ops
  case dropped => exact fun id t ops' w told early => not_mem_rung_of_dropped told early ops' w
  case unpolled =>
    intro id t w told silent rang
    obtain ⟨t', told', -, polled⟩ := (faithful_start origin).over_of_mem_rung rang
    cases told.symm.trans told'
    rw [silent] at polled
    cases polled

end Observed

end HostBench
