/-
  Those who wait for the phase of a host. Waits are begun, polled and given up, the phase changes, and
  those whom a change is to wake are woken one after the other, while anything else may go on. All that
  can be seen of this is kept in order (`Glimpse`), so that a run of operations leaves a lifetime, the
  glimpses of it, and those who are still to be woken (`Vigil.run`).

  What a wait waits for is told from the glimpses alone: it is the last poll that found it unready,
  unless the wait was given up or the phase has changed since (`waker_eq_some_iff`). A lifetime keeps
  just these wakers (`Faithful.waits_eq`), so a change of the phase is told to everyone who waits and
  to nobody else (`Faithful.signalled`), and `none_lost` follows.
-/
import HostBench.Lifetime
import HostBench.Proofs.Basics
import Mathlib.Data.List.Basic

namespace HostBench

variable {H W : Type}

/-! ## What is done and what is seen -/

/-- What is done with a lifetime and the waits for its phase. -/
inductive LifetimeOp (H W : Type) where
  | register (hook : Hook H)
  | wait (goal : Goal)
  | poll (id : WaitId) (w : W)
  | drop (id : WaitId)
  | beginStopping
  | markStopped
  /-- Someone is woken who is still to be woken. -/
  | wake (w : W)

/-- What there is to see of the waits for a phase. -/
inductive Glimpse (W : Type) where
  | begun (goal : Goal)
  | polled (id : WaitId) (w : W) (ready : Bool)
  | dropped (id : WaitId)
  /-- The phase changes, and those are to be woken. -/
  | entered (p : Phase) (due : List W)
  | woke (w : W)

namespace Glimpse

/-- What the wait is for that is begun. -/
def begun? : Glimpse W → Option Goal
  | .begun goal => some goal
  | _ => none

/-- Who is woken. -/
def woke? : Glimpse W → Option W
  | .woke w => some w
  | _ => none

/-- Those who are to be woken from then on. -/
def due : Glimpse W → List W
  | .entered _ due => due
  | _ => []

/-- The wait is polled or given up. -/
def isAbout (id : WaitId) : Glimpse W → Bool
  | .polled i _ _ | .dropped i => i == id
  | _ => false

/-- The wait is over: it has found its goal reached, or was given up. -/
def ends (id : WaitId) : Glimpse W → Bool
  | .polled i _ ready => i == id && ready
  | .dropped i => i == id
  | _ => false

/-- The phase changes. -/
def isChange : Glimpse W → Bool
  | .entered _ _ => true
  | _ => false

/-- On whose behalf a wait waits, if it waited on behalf of `w?` before. -/
def next (id : WaitId) (w? : Option W) : Glimpse W → Option W
  | .polled i w ready => if i = id then (if ready then none else some w) else w?
  | .dropped i => if i = id then none else w?
  | .entered _ _ => none
  | _ => w?

/-- What the waits are for, in the order in which they were begun. -/
def goals (gs : List (Glimpse W)) : List Goal := gs.filterMap begun?

/-- On whose behalf a wait waits. -/
def waker (gs : List (Glimpse W)) (id : WaitId) : Option W := gs.foldl (next id) none

/-- All those on whose behalf waits wait. -/
def waiting (gs : List (Glimpse W)) : List W :=
  (List.range (goals gs).length).filterMap (waker gs)

/-- There is such a wait, and it is not over. -/
def isHeld (gs : List (Glimpse W)) (id : WaitId) : Bool :=
  decide (id < (goals gs).length) && !gs.any (ends id)

end Glimpse

/-- The wakers that the waits of a lifetime keep. -/
def Lifetime.wakers (l : Lifetime H W) : List W := l.waits.filterMap (·.waker)

/-- A lifetime, all that was seen of its waits, the oldest first, and those who are to be woken. -/
structure Vigil (H W : Type) where
  lifetime : Lifetime H W
  glimpses : List (Glimpse W)
  owed : List W

namespace Vigil

/-- A lifetime that is new, and of whose waits nothing was seen. -/
def start : Vigil H W := ⟨.new, [], []⟩

/-- Something is seen when the lifetime has become another one in the same phase. -/
def see (v : Vigil H W) (l : Lifetime H W) (g : Glimpse W) : Vigil H W :=
  { v with lifetime := l, glimpses := v.glimpses ++ [g] }

/-- The lifetime goes on to another one, and some are to be woken. It is seen if the phase changes. -/
def goOn (v : Vigil H W) (l : Lifetime H W) (due : List W) : Vigil H W where
  lifetime := l
  glimpses := v.glimpses ++ if l.phase = v.lifetime.phase then [] else [.entered l.phase due]
  owed := v.owed ++ due

end Vigil

/-- Does something with a lifetime. Only a wait that is held can be polled or given up, and only those
are woken who are to be woken. -/
def LifetimeOp.perform [DecidableEq W] (op : LifetimeOp H W) (v : Vigil H W) : Vigil H W :=
  match op with
  | .register hook =>
    match v.lifetime.register hook with
    | .ok l => { v with lifetime := l }
    | .error _ => v
  | .wait goal => v.see (v.lifetime.wait goal).1 (.begun goal)
  | .poll id w =>
    if Glimpse.isHeld v.glimpses id then
      v.see (v.lifetime.poll id w).1 (.polled id w (v.lifetime.poll id w).2)
    else v
  | .drop id =>
    if Glimpse.isHeld v.glimpses id then v.see (v.lifetime.cancel id) (.dropped id) else v
  | .beginStopping => v.goOn v.lifetime.beginStopping.1 v.lifetime.beginStopping.2.2
  | .markStopped => v.goOn v.lifetime.markStopped.1 v.lifetime.markStopped.2
  | .wake w =>
    if w ∈ v.owed then { v.see v.lifetime (.woke w) with owed := v.owed.erase w } else v

namespace Vigil

/-- Does one thing after the other. -/
def run [DecidableEq W] (ops : List (LifetimeOp H W)) (v : Vigil H W) : Vigil H W :=
  ops.foldl (fun v op => op.perform v) v

section
variable [DecidableEq W] {v : Vigil H W} {id : WaitId} {w : W}

theorem run_append (ops ops' : List (LifetimeOp H W)) (v : Vigil H W) :
    run (ops ++ ops') v = run ops' (run ops v) := List.foldl_append

theorem perform_poll (held : Glimpse.isHeld v.glimpses id = true) (w : W) :
    (LifetimeOp.poll id w).perform v =
      v.see (v.lifetime.poll id w).1 (.polled id w (v.lifetime.poll id w).2) := if_pos held

theorem perform_poll_of_not_held (gone : ¬ Glimpse.isHeld v.glimpses id = true) (w : W) :
    (LifetimeOp.poll id w).perform v = v := if_neg gone

theorem perform_drop (held : Glimpse.isHeld v.glimpses id = true) :
    (LifetimeOp.drop id).perform v = v.see (v.lifetime.cancel id) (.dropped id) := if_pos held

theorem perform_drop_of_not_held (gone : ¬ Glimpse.isHeld v.glimpses id = true) :
    (LifetimeOp.drop id).perform v = v := if_neg gone

theorem perform_wake (due : w ∈ v.owed) : (LifetimeOp.wake w).perform v =
    { v.see v.lifetime (.woke w) with owed := v.owed.erase w } := if_pos due

theorem perform_wake_of_not_due (quiet : ¬ w ∈ v.owed) :
    (LifetimeOp.wake w).perform v = v := if_neg quiet

end

end Vigil

/-! ## What one glimpse adds -/

namespace Glimpse

variable {gs : List (Glimpse W)} {g : Glimpse W} {id : WaitId} {w : W}

theorem goals_append (gs gs' : List (Glimpse W)) : goals (gs ++ gs') = goals gs ++ goals gs' :=
  List.filterMap_append

theorem waker_append (gs gs' : List (Glimpse W)) (id : WaitId) :
    waker (gs ++ gs') id = gs'.foldl (next id) (waker gs id) := List.foldl_append

@[simp] theorem waker_concat (gs : List (Glimpse W)) (g : Glimpse W) (id : WaitId) :
    waker (gs ++ [g]) id = g.next id (waker gs id) := waker_append gs [g] id

/-- Where neither the wait nor the phase is concerned, nobody else waits. -/
theorem next_of_still (other : g.isAbout id = false) (still : g.isChange = false) (w? : Option W) :
    g.next id w? = w? := by
  cases g with
  | polled i w ready => exact if_neg (by simpa [isAbout] using other)
  | dropped i => exact if_neg (by simpa [isAbout] using other)
  | entered p due => cases still
  | begun goal => rfl
  | woke w => rfl

theorem next_eq_none_or (g : Glimpse W) (id : WaitId) (w? : Option W) :
    g.next id w? = none ∨ (∃ w, g = .polled id w false ∧ g.next id w? = some w) ∨
      g.isAbout id = false ∧ g.isChange = false := by
  cases g with
  | polled i w ready =>
    by_cases same : i = id
    · subst same
      cases ready with
      | true => exact .inl (by simp [next])
      | false => exact .inr (.inl ⟨w, rfl, by simp [next]⟩)
    · exact .inr (.inr ⟨by simpa [isAbout] using same, rfl⟩)
  | dropped i =>
    by_cases same : i = id
    · exact .inl (if_pos same)
    · exact .inr (.inr ⟨by simpa [isAbout] using same, rfl⟩)
  | entered p due => exact .inl rfl
  | begun goal => exact .inr (.inr ⟨rfl, rfl⟩)
  | woke w => exact .inr (.inr ⟨rfl, rfl⟩)

/-- Someone waits on and on until the wait or the phase is concerned. -/
theorem foldl_next_of_still {gs : List (Glimpse W)}
    (still : ∀ g ∈ gs, g.isAbout id = false ∧ g.isChange = false) (w? : Option W) :
    gs.foldl (next id) w? = w? := by
  induction gs generalizing w? with
  | nil => rfl
  | cons g gs ih =>
    obtain ⟨other, unchanged⟩ := still g List.mem_cons_self
    rw [List.foldl_cons, next_of_still other unchanged]
    exact ih (fun g' hg => still g' (List.mem_cons_of_mem _ hg)) w?

/-- A wait waits on behalf of someone just if the last poll was on their behalf and found it unready,
and since then it was not given up and the phase has not changed. -/
theorem waker_eq_some_iff : waker gs id = some w ↔
    ∃ before after, gs = before ++ .polled id w false :: after ∧
      ∀ g ∈ after, g.isAbout id = false ∧ g.isChange = false := by
  constructor
  · intro waits
    induction gs using List.reverseRecOn with
    | nil => cases waits
    | append_singleton gs g ih =>
      rw [waker_concat] at waits
      rcases next_eq_none_or g id (waker gs id) with gone | ⟨w', rfl, begun⟩ | ⟨other, unchanged⟩
      · rw [gone] at waits
        cases waits
      · rw [begun] at waits
        cases waits
        exact ⟨gs, [], rfl, fun g hg => absurd hg List.not_mem_nil⟩
      · rw [next_of_still other unchanged] at waits
        obtain ⟨before, after, rfl, still⟩ := ih waits
        refine ⟨before, after ++ [g], by simp, fun g' hg => ?_⟩
        rcases List.mem_append.mp hg with there | last
        · exact still g' there
        · rw [List.mem_singleton.mp last]
          exact ⟨other, unchanged⟩
  · rintro ⟨before, after, rfl, still⟩
    rw [waker_append, List.foldl_cons, foldl_next_of_still still]
    simp [next]

end Glimpse

/-! ## What an operation can do -/

namespace Lifetime

theorem beginStopping_of_ne_running {l : Lifetime H W} (stopping : l.phase ≠ .running) :
    l.beginStopping = (l, [], []) := if_neg stopping

end Lifetime

/-- What comes of an operation. The phase stays as it is, and so do the waits, or one of them is begun,
polled or given up; or it changes, and all who wait are to be woken; or one of these is woken. -/
inductive LifetimeOp.Does [DecidableEq W] (v : Vigil H W) : LifetimeOp H W → Vigil H W → Prop
  | register {hook : Hook H} {l : Lifetime H W} (accepted : v.lifetime.register hook = .ok l) :
      Does v (.register hook) { v with lifetime := l }
  | wait (goal : Goal) : Does v (.wait goal) (v.see (v.lifetime.wait goal).1 (.begun goal))
  | poll {id : WaitId} (held : Glimpse.isHeld v.glimpses id = true) (w : W) :
      Does v (.poll id w) (v.see (v.lifetime.poll id w).1 (.polled id w (v.lifetime.poll id w).2))
  | drop {id : WaitId} (held : Glimpse.isHeld v.glimpses id = true) :
      Does v (.drop id) (v.see (v.lifetime.cancel id) (.dropped id))
  | change {op : LifetimeOp H W} {l : Lifetime H W} (other : l.phase ≠ v.lifetime.phase)
      (cleared : l.waits = v.lifetime.waits.map fun x => { x with waker := none })
      (changes : op = .beginStopping ∧ l.phase = .stopping ∨ op = .markStopped ∧ l.phase = .stopped) :
      Does v op ⟨l, v.glimpses ++ [.entered l.phase v.lifetime.wakers],
        v.owed ++ v.lifetime.wakers⟩
  | again (stopped : v.lifetime.phase = .stopped) :
      Does v .markStopped ⟨v.lifetime.markStopped.1, v.glimpses, v.owed ++ v.lifetime.wakers⟩
  | wake {w : W} (due : w ∈ v.owed) :
      Does v (.wake w) { v.see v.lifetime (.woke w) with owed := v.owed.erase w }
  | nothing (op : LifetimeOp H W) : Does v op v

theorem LifetimeOp.does_perform [DecidableEq W] (op : LifetimeOp H W) (v : Vigil H W) :
    op.Does v (op.perform v) := by
  cases op with
  | register hook =>
    cases tried : v.lifetime.register hook with
    | ok l =>
      have accepted : (LifetimeOp.register hook).perform v = { v with lifetime := l } := by
        simp only [perform, tried]
      rw [accepted]
      exact .register tried
    | error e =>
      have refused : (LifetimeOp.register hook).perform v = v := by simp only [perform, tried]
      rw [refused]
      exact .nothing _
  | wait goal => exact .wait goal
  | poll id w =>
    by_cases held : Glimpse.isHeld v.glimpses id = true
    · rw [Vigil.perform_poll held]
      exact .poll held w
    · rw [Vigil.perform_poll_of_not_held held]
      exact .nothing _
  | drop id =>
    by_cases held : Glimpse.isHeld v.glimpses id = true
    · rw [Vigil.perform_drop held]
      exact .drop held
    · rw [Vigil.perform_drop_of_not_held held]
      exact .nothing _
  | beginStopping =>
    by_cases running : v.lifetime.phase = .running
    · have begun : v.lifetime.beginStopping.1.phase = .stopping :=
        (Lifetime.beginStopping_of_running running).1
      have other : v.lifetime.beginStopping.1.phase ≠ v.lifetime.phase := by
        rw [begun, running]
        decide
      have handed : v.lifetime.beginStopping.2.2 = v.lifetime.wakers := by
        rw [Lifetime.beginStopping, if_pos running]
        rfl
      have cleared : v.lifetime.beginStopping.1.waits =
          v.lifetime.waits.map fun x => { x with waker := none } := by
        rw [Lifetime.beginStopping, if_pos running]
        rfl
      unfold perform Vigil.goOn
      rw [if_neg other, handed]
      exact .change other cleared (.inl ⟨rfl, begun⟩)
    · have same : LifetimeOp.beginStopping.perform v = v := by
        simp [perform, Vigil.goOn, Lifetime.beginStopping_of_ne_running running]
      rw [same]
      exact .nothing _
  | markStopped =>
    by_cases stopped : v.lifetime.phase = .stopped
    · have same : v.lifetime.markStopped.1.phase = v.lifetime.phase := stopped.symm
      unfold perform Vigil.goOn
      rw [if_pos same, List.append_nil]
      exact .again stopped
    · have other : v.lifetime.markStopped.1.phase ≠ v.lifetime.phase := fun same =>
        stopped same.symm
      unfold perform Vigil.goOn
      rw [if_neg other]
      exact .change other rfl (.inr ⟨rfl, rfl⟩)
  | wake w =>
    by_cases due : w ∈ v.owed
    · rw [Vigil.perform_wake due]
      exact .wake due
    · rw [Vigil.perform_wake_of_not_due due]
      exact .nothing _

/-! ## The glimpses tell what a lifetime keeps -/

namespace Vigil

open Glimpse (goals waker waiting isHeld)

/-- What was seen of the waits for a phase agrees with the lifetime. -/
structure Faithful (v : Vigil H W) : Prop where
  waits_eq : ∀ id : WaitId, v.lifetime.waits[id]? =
    (goals v.glimpses)[id]?.map fun goal => ⟨goal, waker v.glimpses id⟩
  /-- Only a wait that was begun is polled. -/
  begun : ∀ before id w ready after, v.glimpses = before ++ .polled id w ready :: after →
    id < (goals before).length
  /-- Nobody waits for what is reached. -/
  unreached : ∀ (id : WaitId) (goal : Goal) (w : W), (goals v.glimpses)[id]? = some goal →
    waker v.glimpses id = some w → goal.reachedIn v.lifetime.phase = false
  /-- A change of the phase concerns everyone who waits, and since then they have been woken or are
  still to be woken. -/
  signalled : ∀ before p due after, v.glimpses = before ++ .entered p due :: after →
    due = waiting before ∧ ∀ w ∈ due, .woke w ∈ after ∨ w ∈ v.owed
  /-- Those who were woken and those who are still to be woken are the ones whom a change concerned. -/
  accounted : (v.glimpses.filterMap Glimpse.woke? ++ v.owed).Perm (v.glimpses.flatMap Glimpse.due)

theorem faithful_start : Faithful (start : Vigil H W) where
  waits_eq _ := rfl
  begun before id w ready after split := by simp [start] at split
  unreached _ _ _ known := by simp [start, goals] at known
  signalled before p due after split := by simp [start] at split
  accounted := List.Perm.refl _

namespace Faithful

variable {v v' : Vigil H W} {op : LifetimeOp H W} {id : WaitId} {goal : Goal} {w : W}

theorem waits_eq_mapIdx (faithful : v.Faithful) : v.lifetime.waits =
    (goals v.glimpses).mapIdx fun id goal => ⟨goal, waker v.glimpses id⟩ := by
  refine List.ext_getElem? fun id => ?_
  rw [faithful.waits_eq id, List.getElem?_mapIdx]

theorem length_waits (faithful : v.Faithful) :
    v.lifetime.waits.length = (goals v.glimpses).length := by
  rw [faithful.waits_eq_mapIdx, List.length_mapIdx]

/-- The wakers that a lifetime keeps are those of all who wait. -/
theorem wakers_eq (faithful : v.Faithful) : v.lifetime.wakers = waiting v.glimpses := by
  have indices : (goals v.glimpses).zipIdx.map Prod.snd = List.range (goals v.glimpses).length := by
    rw [List.zipIdx_map_snd, List.range_eq_range']
  unfold Lifetime.wakers waiting
  rw [faithful.waits_eq_mapIdx, List.mapIdx_eq_zipIdx_map, List.filterMap_map, ← indices,
    List.filterMap_map]
  rfl

/-- Whoever waits is among those who wait, at any time so far. -/
theorem mem_waiting (faithful : v.Faithful) {earlier later : List (Glimpse W)}
    (split : v.glimpses = earlier ++ later) (waits : waker earlier id = some w) :
    id < (goals earlier).length ∧ w ∈ waiting earlier := by
  obtain ⟨before, after, rfl, -⟩ := Glimpse.waker_eq_some_iff.mp waits
  have begun : id < (goals before).length :=
    faithful.begun before id w false (after ++ later) (by simpa using split)
  have inside : id < (goals (before ++ .polled id w false :: after)).length := by
    rw [Glimpse.goals_append, List.length_append]
    exact Nat.lt_add_right _ begun
  exact ⟨inside, List.mem_filterMap.mpr ⟨id, List.mem_range.mpr inside, waits⟩⟩

theorem lt_of_waker (faithful : v.Faithful) (waits : waker v.glimpses id = some w) :
    id < (goals v.glimpses).length :=
  (faithful.mem_waiting (List.append_nil _).symm waits).1

/-- Who waits has not been told of a change yet, so nobody waits once the host has stopped. -/
theorem wakers_of_stopped (faithful : v.Faithful) (stopped : v.lifetime.phase = .stopped) :
    v.lifetime.wakers = [] := by
  rw [faithful.wakers_eq]
  refine List.filterMap_eq_nil_iff.mpr fun id _ => Option.eq_none_iff_forall_ne_some.mpr fun w waits => ?_
  obtain ⟨goal, known⟩ : ∃ goal, (goals v.glimpses)[id]? = some goal :=
    ⟨_, List.getElem?_eq_getElem (faithful.lt_of_waker waits)⟩
  have unreached := faithful.unreached id goal w known waits
  rw [stopped] at unreached
  cases goal <;> cases unreached

/-! ## One operation -/

/-- What is seen besides changes of the phase leaves those who are to be woken as they are. -/
theorem signalled_see (faithful : v.Faithful) (l : Lifetime H W) {g : Glimpse W}
    (unchanged : g.isChange = false) (before : List (Glimpse W)) (p : Phase) (due : List W)
    (after : List (Glimpse W)) (split : (v.see l g).glimpses = before ++ .entered p due :: after) :
    due = waiting before ∧ ∀ w ∈ due, .woke w ∈ after ∨ w ∈ (v.see l g).owed := by
  rcases concat_eq_append_cons split with ⟨-, same, -⟩ | ⟨rest, rfl, earlier⟩
  · rw [← same] at unchanged
    cases unchanged
  · obtain ⟨told, woken⟩ := faithful.signalled before p due rest earlier
    exact ⟨told, fun w hw => (woken w hw).imp_left (List.mem_append_left [g])⟩

/-- So it does with the account of them. -/
theorem accounted_see (faithful : v.Faithful) (l : Lifetime H W) {g : Glimpse W}
    (silent : g.woke? = none) (unchanged : g.due = []) :
    ((v.see l g).glimpses.filterMap Glimpse.woke? ++ (v.see l g).owed).Perm
      ((v.see l g).glimpses.flatMap Glimpse.due) := by
  simpa [see, List.filterMap_append, List.flatMap_append, silent, unchanged] using faithful.accounted

/-- What is seen besides polls leaves it so that only waits are polled that were begun. -/
theorem begun_concat (faithful : v.Faithful) {g : Glimpse W}
    (begun : ∀ id w ready, g = .polled id w ready → id < (goals v.glimpses).length)
    (before : List (Glimpse W)) (id : WaitId) (w : W) (ready : Bool) (after : List (Glimpse W))
    (split : v.glimpses ++ [g] = before ++ .polled id w ready :: after) :
    id < (goals before).length := by
  rcases concat_eq_append_cons split with ⟨rfl, same, -⟩ | ⟨rest, -, earlier⟩
  · exact begun id w ready same.symm
  · exact faithful.begun before id w ready rest earlier

theorem register (faithful : v.Faithful) {hook : Hook H} {l : Lifetime H W}
    (accepted : v.lifetime.register hook = .ok l) : Faithful { v with lifetime := l } := by
  obtain ⟨-, rfl⟩ := Lifetime.register_eq_ok_iff.mp accepted
  exact ⟨faithful.waits_eq, faithful.begun, faithful.unreached, faithful.signalled,
    faithful.accounted⟩

theorem wait (faithful : v.Faithful) (goal : Goal) :
    (v.see (v.lifetime.wait goal).1 (.begun goal)).Faithful := by
  have count := faithful.length_waits
  have goals_eq : goals (v.glimpses ++ [.begun goal]) = goals v.glimpses ++ [goal] := by
    rw [Glimpse.goals_append]
    rfl
  have waker_eq : ∀ id, waker (v.glimpses ++ [.begun goal]) id = waker v.glimpses id :=
    fun id => Glimpse.waker_concat _ _ _
  have unawaited : waker v.glimpses (goals v.glimpses).length = none :=
    Option.eq_none_iff_forall_ne_some.mpr fun w waits => Nat.lt_irrefl _ (faithful.lt_of_waker waits)
  refine ⟨fun id => ?_, faithful.begun_concat nofun,
    fun id g w known waits => ?_, faithful.signalled_see _ rfl, faithful.accounted_see _ rfl rfl⟩
  · show (v.lifetime.waits ++ [⟨goal, none⟩])[id]? = _
    simp only [see, goals_eq, waker_eq]
    rcases Nat.lt_trichotomy id (goals v.glimpses).length with before | rfl | behind
    · rw [List.getElem?_append_left (count ▸ before), List.getElem?_append_left before]
      exact faithful.waits_eq id
    · rw [← count, List.getElem?_concat_length, count, List.getElem?_concat_length]
      simp [unawaited]
    · rw [List.getElem?_eq_none (by simp; omega), List.getElem?_eq_none (by simp; omega)]
      rfl
  · simp only [see, goals_eq, waker_eq] at known waits
    rw [List.getElem?_append_left (faithful.lt_of_waker waits)] at known
    exact faithful.unreached id g w known waits

/-- A wait that is held is kept with its goal, and with the one on whose behalf it waits. -/
theorem kept_of_held (faithful : v.Faithful) (held : isHeld v.glimpses id = true) :
    ∃ goal, (goals v.glimpses)[id]? = some goal ∧
      v.lifetime.waits[id]? = some ⟨goal, waker v.glimpses id⟩ := by
  have inside : id < (goals v.glimpses).length := by
    simp only [isHeld, Bool.and_eq_true, decide_eq_true_eq] at held
    exact held.1
  refine ⟨_, List.getElem?_eq_getElem inside, ?_⟩
  rw [faithful.waits_eq id, List.getElem?_eq_getElem inside]
  rfl

/-- What is seen of one wait, which is then kept with the one on whose behalf it waits from then on. -/
theorem seen (faithful : v.Faithful) (held : isHeld v.glimpses id = true) {l : Lifetime H W}
    {g : Glimpse W} (about : g.isAbout id = true) (same : l.phase = v.lifetime.phase)
    (kept : ∀ goal, (goals v.glimpses)[id]? = some goal →
      l.waits = v.lifetime.waits.set id ⟨goal, g.next id (waker v.glimpses id)⟩ ∧
        ∀ w, g.next id (waker v.glimpses id) = some w → goal.reachedIn v.lifetime.phase = false) :
    (v.see l g).Faithful := by
  obtain ⟨goal, known, -⟩ := faithful.kept_of_held held
  obtain ⟨waits_eq, unreached⟩ := kept goal known
  have inside : id < (goals v.glimpses).length := (List.getElem?_eq_some_iff.mp known).1
  have plain : g.begun? = none ∧ g.woke? = none ∧ g.due = [] ∧ g.isChange = false := by
    cases g <;> first | exact ⟨rfl, rfl, rfl, rfl⟩ | cases about
  have others : ∀ i, i ≠ id → waker (v.glimpses ++ [g]) i = waker v.glimpses i := by
    intro i other
    have elsewhere : g.isAbout i = false := by
      refine Bool.eq_false_iff.mpr fun here => other ?_
      cases g <;> simp only [Glimpse.isAbout, beq_iff_eq, Bool.false_eq_true] at about here
      all_goals rw [← here, about]
    rw [Glimpse.waker_concat, Glimpse.next_of_still elsewhere plain.2.2.2]
  have goals_eq : goals (v.glimpses ++ [g]) = goals v.glimpses := by
    simp [goals, plain.1]
  refine ⟨fun i => ?_, faithful.begun_concat fun i w ready polled => ?_,
    fun i goal' w known' waits => ?_, faithful.signalled_see l plain.2.2.2,
    faithful.accounted_see l plain.2.1 plain.2.2.1⟩
  · simp only [see, goals_eq, waits_eq]
    by_cases here : i = id
    · subst here
      rw [List.getElem?_set_self (faithful.length_waits ▸ inside), known, Glimpse.waker_concat]
      rfl
    · rw [List.getElem?_set_ne (Ne.symm here), others i here]
      exact faithful.waits_eq i
  · rw [polled] at about
    rwa [beq_iff_eq.mp about]
  · simp only [see, goals_eq, same] at known' waits ⊢
    by_cases here : i = id
    · subst here
      rw [known] at known'
      cases known'
      rw [Glimpse.waker_concat] at waits
      exact unreached w waits
    · rw [others i here] at waits
      exact faithful.unreached i goal' w known' waits

theorem poll (faithful : v.Faithful) (held : isHeld v.glimpses id = true) (w : W) :
    (v.see (v.lifetime.poll id w).1 (.polled id w (v.lifetime.poll id w).2)).Faithful := by
  obtain ⟨goal, known, found⟩ := faithful.kept_of_held held
  cases reached : goal.reachedIn v.lifetime.phase with
  | true =>
    have answer : v.lifetime.poll id w = (v.lifetime, true) := by
      simp [Lifetime.poll, found, reached]
    -- a wait whose goal is reached waits on behalf of nobody already
    have unawaited : waker v.glimpses id = none := by
      refine Option.eq_none_iff_forall_ne_some.mpr fun w' waits => ?_
      rw [faithful.unreached id goal w' known waits] at reached
      cases reached
    rw [answer]
    refine faithful.seen held (beq_self_eq_true id) rfl fun goal' known' => ?_
    rw [known] at known'
    cases known'
    have ready : (Glimpse.polled id w true).next id (waker v.glimpses id) = none := by
      simp [Glimpse.next]
    rw [ready]
    refine ⟨?_, fun w' waits => by cases waits⟩
    rw [unawaited] at found
    obtain ⟨within, same⟩ := List.getElem?_eq_some_iff.mp found
    rw [← same]
    exact (List.set_getElem_self within).symm
  | false =>
    have answer : v.lifetime.poll id w =
        ({ v.lifetime with waits := v.lifetime.waits.set id ⟨goal, some w⟩ }, false) := by
      simp [Lifetime.poll, found, reached]
    rw [answer]
    refine faithful.seen held (beq_self_eq_true id) rfl fun goal' known' => ?_
    rw [known] at known'
    cases known'
    have unready : (Glimpse.polled id w false).next id (waker v.glimpses id) = some w := by
      simp [Glimpse.next]
    rw [unready]
    exact ⟨rfl, fun _ _ => reached⟩

theorem drop (faithful : v.Faithful) (held : isHeld v.glimpses id = true) :
    (v.see (v.lifetime.cancel id) (.dropped id)).Faithful := by
  obtain ⟨goal, known, found⟩ := faithful.kept_of_held held
  have cancelled : v.lifetime.cancel id =
      { v.lifetime with waits := v.lifetime.waits.set id ⟨goal, none⟩ } := by
    simp [Lifetime.cancel, found]
  rw [cancelled]
  refine faithful.seen held (beq_self_eq_true id) rfl fun goal' known' => ?_
  rw [known] at known'
  cases known'
  have gone : (Glimpse.dropped id).next id (waker v.glimpses id) = none := if_pos rfl
  rw [gone]
  exact ⟨rfl, fun w waits => by cases waits⟩

/-- A change of the phase concerns all who wait, and nobody waits after it. -/
theorem change (faithful : v.Faithful) {l : Lifetime H W}
    (cleared : l.waits = v.lifetime.waits.map fun x => { x with waker := none }) :
    Faithful ⟨l, v.glimpses ++ [.entered l.phase v.lifetime.wakers],
      v.owed ++ v.lifetime.wakers⟩ := by
  have goals_eq : goals (v.glimpses ++ [.entered l.phase v.lifetime.wakers]) = goals v.glimpses := by
    simp [goals, Glimpse.begun?]
  have nobody : ∀ id, waker (v.glimpses ++ [.entered l.phase v.lifetime.wakers]) id = none :=
    fun id => Glimpse.waker_concat _ _ _
  refine ⟨fun id => ?_, faithful.begun_concat nofun,
    fun id goal w _ waits => ?_, fun before p due after split => ?_, ?_⟩
  · rw [cleared, List.getElem?_map, faithful.waits_eq id, goals_eq, nobody, Option.map_map]
    rfl
  · rw [nobody] at waits
    cases waits
  · rcases concat_eq_append_cons split with ⟨rfl, same, -⟩ | ⟨rest, rfl, earlier⟩
    · cases same
      exact ⟨faithful.wakers_eq, fun w hw => .inr (List.mem_append_right _ hw)⟩
    · obtain ⟨told, woken⟩ := faithful.signalled before p due rest earlier
      exact ⟨told, fun w hw => (woken w hw).imp (List.mem_append_left _) (List.mem_append_left _)⟩
  · have account := faithful.accounted.append_right v.lifetime.wakers
    have silent : (Glimpse.entered l.phase v.lifetime.wakers).woke? = none := rfl
    simpa [List.filterMap_append, List.flatMap_append, silent, Glimpse.due] using account

/-- A host that has stopped and is stopped again has nobody to wake. -/
theorem again (faithful : v.Faithful) (stopped : v.lifetime.phase = .stopped) :
    Faithful ⟨v.lifetime.markStopped.1, v.glimpses, v.owed ++ v.lifetime.wakers⟩ := by
  have nobody := faithful.wakers_of_stopped stopped
  have unawaited : ∀ x ∈ v.lifetime.waits, x.waker = none :=
    fun x hx => List.filterMap_eq_nil_iff.mp nobody x hx
  have waits_eq : v.lifetime.markStopped.1.waits = v.lifetime.waits := by
    refine (List.map_congr_left fun x hx => ?_).trans (List.map_id _)
    rw [← unawaited x hx]
    rfl
  have phase_eq : v.lifetime.markStopped.1.phase = v.lifetime.phase := stopped.symm
  rw [nobody, List.append_nil]
  refine ⟨fun id => ?_, faithful.begun, fun id goal w known waits => ?_, faithful.signalled,
    faithful.accounted⟩
  · rw [waits_eq]
    exact faithful.waits_eq id
  · rw [phase_eq]
    exact faithful.unreached id goal w known waits

theorem wake [DecidableEq W] (faithful : v.Faithful) (due : w ∈ v.owed) :
    Faithful { v.see v.lifetime (.woke w) with owed := v.owed.erase w } := by
  have goals_eq : goals (v.glimpses ++ [.woke w]) = goals v.glimpses := by
    simp [goals, Glimpse.begun?]
  have waker_eq : ∀ id, waker (v.glimpses ++ [.woke w]) id = waker v.glimpses id :=
    fun id => Glimpse.waker_concat _ _ _
  refine ⟨fun id => ?_, faithful.begun_concat nofun,
    fun id goal w' known waits => ?_, fun before p ws after split => ?_, ?_⟩
  · simp only [see, goals_eq, waker_eq]
    exact faithful.waits_eq id
  · simp only [see, goals_eq, waker_eq] at known waits
    exact faithful.unreached id goal w' known waits
  · rcases concat_eq_append_cons split with ⟨-, same, -⟩ | ⟨rest, rfl, earlier⟩
    · cases same
    · obtain ⟨told, woken⟩ := faithful.signalled before p ws rest earlier
      refine ⟨told, fun w' hw => ?_⟩
      rcases woken w' hw with before' | owed
      · exact .inl (List.mem_append_left _ before')
      · by_cases same : w' = w
        · exact .inl (by simp [same])
        · exact .inr ((List.mem_erase_of_ne same).mpr owed)
  · have account : (v.glimpses.filterMap Glimpse.woke? ++ w :: v.owed.erase w).Perm
        (v.glimpses.flatMap Glimpse.due) :=
      ((List.perm_cons_erase due).symm.append_left _).trans faithful.accounted
    simpa [see, List.filterMap_append, List.flatMap_append, Glimpse.woke?, Glimpse.due] using account

/-- **One operation.** What was seen still agrees with the lifetime. -/
theorem does [DecidableEq W] (faithful : v.Faithful) (does : op.Does v v') : v'.Faithful := by
  cases does with
  | register accepted => exact faithful.register accepted
  | wait goal => exact faithful.wait goal
  | poll held w => exact faithful.poll held w
  | drop held => exact faithful.drop held
  | change _ cleared _ => exact faithful.change cleared
  | again stopped => exact faithful.again stopped
  | wake due => exact faithful.wake due
  | nothing => exact faithful

end Faithful

/-- **All operations.** Whatever is done with a new lifetime and its waits. -/
theorem faithful_run [DecidableEq W] (ops : List (LifetimeOp H W)) : (run ops start).Faithful := by
  induction ops using List.reverseRecOn with
  | nil => exact faithful_start
  | append_singleton ops op ih =>
    rw [run_append]
    exact ih.does (op.does_perform _)

/-! ## No signal is lost -/

/-- What holds of those who wait for the phase of a host, at any time. -/
structure NoneLost (v : Vigil H W) : Prop where
  /-- A poll of a wait for the host to stop finds it ready exactly if the host does not run. -/
  stopping : ∀ (id : WaitId) (w : W), (goals v.glimpses)[id]? = some .stopping →
    ((v.lifetime.poll id w).2 = true ↔ v.lifetime.phase ≠ .running)
  /-- A poll of a wait for the host to have stopped finds it ready exactly if it has. -/
  stopped : ∀ (id : WaitId) (w : W), (goals v.glimpses)[id]? = some .stopped →
    ((v.lifetime.poll id w).2 = true ↔ v.lifetime.phase = .stopped)
  /-- A poll that found a wait unready is followed by a change of the phase, the first one after it,
  and the wait was not polled again or given up before: the change is to wake whoever polled. Since
  then they have been woken, if they are not still to be. -/
  first : ∀ before id w between p due after,
    v.glimpses = before ++ .polled id w false :: (between ++ .entered p due :: after) →
    (∀ g ∈ between, g.isAbout id = false ∧ g.isChange = false) →
    w ∈ due ∧ (.woke w ∈ after ∨ w ∈ v.owed)
  /-- Once all are woken who are to be: where the last poll of a wait found it unready, and what it is
  for is reached, there was a change of the phase, and whoever polled has been woken after it. -/
  since : ∀ before id w after goal, v.glimpses = before ++ .polled id w false :: after →
    (∀ g ∈ after, g.isAbout id = false) → (goals v.glimpses)[id]? = some goal →
    goal.reachedIn v.lifetime.phase = true → v.owed = [] →
    ∃ between p due rest, after = between ++ .entered p due :: rest ∧ .woke w ∈ rest
  /-- A change of the phase is to wake all who wait, as often as they do, and nobody else. -/
  due : ∀ before p due after, v.glimpses = before ++ .entered p due :: after →
    due.Perm (waiting before)
  /-- Nobody is woken but those whom a change was to wake, and as often. -/
  accounted : (v.glimpses.filterMap Glimpse.woke? ++ v.owed).Perm (v.glimpses.flatMap Glimpse.due)

namespace Faithful

variable {v : Vigil H W} {id : WaitId} {goal : Goal} {w : W}

/-- A wait is ready exactly if its goal is reached. -/
theorem ready_iff (faithful : v.Faithful) (known : (goals v.glimpses)[id]? = some goal) (w : W) :
    (v.lifetime.poll id w).2 = true ↔ goal.reachedIn v.lifetime.phase = true := by
  have found : v.lifetime.waits[id]? = some ⟨goal, waker v.glimpses id⟩ := by
    rw [faithful.waits_eq id, known]
    rfl
  exact Lifetime.poll_ready_iff found

/-- The first change of the phase after a poll that found a wait unready concerns whoever polled. -/
theorem first_change (faithful : v.Faithful) {before between after : List (Glimpse W)} {p : Phase}
    {due : List W}
    (seen : v.glimpses = before ++ .polled id w false :: (between ++ .entered p due :: after))
    (still : ∀ g ∈ between, g.isAbout id = false ∧ g.isChange = false) :
    w ∈ due ∧ (.woke w ∈ after ∨ w ∈ v.owed) := by
  have split : v.glimpses = (before ++ .polled id w false :: between) ++ .entered p due :: after := by
    simpa using seen
  obtain ⟨told, woken⟩ := faithful.signalled _ p due after split
  have waits : waker (before ++ .polled id w false :: between) id = some w :=
    Glimpse.waker_eq_some_iff.mpr ⟨before, between, rfl, still⟩
  have concerned : w ∈ due := told ▸ (faithful.mem_waiting split waits).2
  exact ⟨concerned, woken w concerned⟩

/-- What is reached, and was not when it was asked for, has been reached by a change since then. -/
theorem changed_of_reached (faithful : v.Faithful) {before after : List (Glimpse W)}
    (seen : v.glimpses = before ++ .polled id w false :: after)
    (last : ∀ g ∈ after, g.isAbout id = false) (known : (goals v.glimpses)[id]? = some goal)
    (reached : goal.reachedIn v.lifetime.phase = true) :
    ∃ between p due rest, after = between ++ .entered p due :: rest ∧
      ∀ g ∈ between, g.isChange = false := by
  cases found : after.find? Glimpse.isChange with
  | none =>
    have still : ∀ g ∈ after, g.isAbout id = false ∧ g.isChange = false := fun g hg =>
      ⟨last g hg, Bool.eq_false_iff.mpr (List.find?_eq_none.mp found g hg)⟩
    have waits : waker v.glimpses id = some w :=
      Glimpse.waker_eq_some_iff.mpr ⟨before, after, seen, still⟩
    rw [faithful.unreached id goal w known waits] at reached
    cases reached
  | some g =>
    obtain ⟨changes, between, rest, split, unchanged⟩ := List.find?_eq_some_iff_append.mp found
    cases g with
    | entered p due => exact ⟨between, p, due, rest, split, fun g hg => by simpa using unchanged g hg⟩
    | _ => cases changes

/-- Where what was seen agrees with the lifetime, no signal is lost. -/
theorem noneLost (faithful : v.Faithful) : v.NoneLost := by
  refine ⟨fun id w known => ?_, fun id w known => ?_, ?_, ?_, ?_, faithful.accounted⟩
  · simpa [Goal.reachedIn] using faithful.ready_iff known w
  · simpa [Goal.reachedIn] using faithful.ready_iff known w
  · intro before id w between p due after seen still
    exact faithful.first_change seen still
  · intro before id w after goal seen last known reached settled
    obtain ⟨between, p, due, rest, rfl, unchanged⟩ :=
      faithful.changed_of_reached seen last known reached
    have still : ∀ g ∈ between, g.isAbout id = false ∧ g.isChange = false := fun g hg =>
      ⟨last g (List.mem_append_left _ hg), unchanged g hg⟩
    obtain ⟨-, woken | owed⟩ := faithful.first_change seen still
    · exact ⟨between, p, due, rest, rfl, woken⟩
    · rw [settled] at owed
      cases owed
  · intro before p due after split
    exact List.Perm.of_eq (faithful.signalled before p due after split).1

/-- Once the host has stopped and all are woken who are to be, nobody is left waiting: whoever found a
wait unready, and did not ask again or give it up, has been woken since. -/
theorem woken_of_stopped (faithful : v.Faithful) (stopped : v.lifetime.phase = .stopped)
    (settled : v.owed = []) {before after : List (Glimpse W)}
    (seen : v.glimpses = before ++ .polled id w false :: after)
    (last : ∀ g ∈ after, g.isAbout id = false) : .woke w ∈ after := by
  have begun : id < (goals v.glimpses).length := by
    have early := faithful.begun before id w false after seen
    rw [seen, Glimpse.goals_append, List.length_append]
    exact Nat.lt_add_right _ early
  have known : (goals v.glimpses)[id]? = some (goals v.glimpses)[id] := List.getElem?_eq_getElem begun
  have reached : (goals v.glimpses)[id].reachedIn v.lifetime.phase = true := by
    rw [stopped]
    cases (goals v.glimpses)[id] <;> rfl
  obtain ⟨between, p, due, rest, rfl, woken⟩ :=
    faithful.noneLost.since before id w after _ seen last known reached settled
  exact List.mem_append_right _ (List.mem_cons_of_mem _ woken)

end Faithful

/-- **No signal is lost.** Whatever is done with a lifetime and the waits for its phase, in any order:
a poll is ready exactly if the phase is one that is waited for, and whoever found a wait unready is
woken by the first change of the phase after that. -/
theorem none_lost [DecidableEq W] (ops : List (LifetimeOp H W)) : (run ops start).NoneLost :=
  (faithful_run ops).noneLost

/-- A wait for the end is woken by the first signal, asks again, and is woken by the second. -/
example : (run [.wait .stopped, .poll 0 7, .beginStopping, .wake 7, .poll 0 8, .markStopped, .wake 8,
    .poll 0 9] (start : Vigil Unit Nat)).glimpses =
    [.begun .stopped, .polled 0 7 false, .entered .stopping [7], .woke 7, .polled 0 8 false,
      .entered .stopped [8], .woke 8, .polled 0 9 true] := rfl

end Vigil

end HostBench
