/-
  What diaries tell. In the diary of a guarded host the phases are in order, and since the first of
  them is over no hooks are held (`Diary.Tells`, `HostStage.Guarded.unfolds_told`).

  The starts in the diary are those that the course of a disposal gives accounts of, each in the state
  that its account begins with (`QueueCourse.starts_eq`). So an attempt starts hooks that the lifetime
  hands over to it, from the first of them on, and while the host is about to stop
  (`Host.exists_started`).
-/
import HostBench.Proofs.Disposal.Diary

namespace HostBench

variable {σ H ρ V F W α : Type}

open Diary (Routine)

/-! ## What a diary tells of a lifetime -/

namespace Lifetime

variable {l l' : Lifetime H W}

/-- No hooks are held since the host began to stop. -/
def Spent (l : Lifetime H W) : Prop := l.phase ≠ .running → l.hooks = []

theorem Uses.spent (uses : Uses l l') (spent : l.Spent) : l'.Spent := by
  intro stopping
  rw [Uses.phase_eq uses] at stopping
  exact (Uses.hooks_eq uses stopping).trans (spent stopping)

theorem spent_beginStopping (spent : l.Spent) : l.beginStopping.1.Spent := by
  by_cases running : l.phase = .running
  · exact fun _ => (beginStopping_of_running running).2.1
  · rw [show l.beginStopping = (l, [], []) from if_neg running]
    exact spent

theorem spent_markStopped (l : Lifetime H W) : l.markStopped.1.Spent := fun _ => rfl

end Lifetime

namespace Diary

/-- The lifetime that is kept at a place, line by line. -/
def lifetimes (p : Place σ (Lifetime H W)) (d : Diary σ H) : List (Lifetime H W) :=
  d.lines.map fun x => p.get x.state

/-- In a diary and up to the present state, the phase of a lifetime moves only forward, and no hooks
are held since it moved. -/
structure Tells (p : Place σ (Lifetime H W)) (d : Diary σ H) : Prop where
  forward : (d.lifetimes p).Pairwise fun l l' => l.phase.rank ≤ l'.phase.rank
  upTo : ∀ l ∈ d.lifetimes p, l.phase.rank ≤ (p.get d.now).phase.rank
  spent : ∀ l ∈ d.lifetimes p, l.Spent
  now : (p.get d.now).Spent

variable {p : Place σ (Lifetime H W)} {d : Diary σ H} {s : σ}

theorem tells_opened (spent : (p.get s).Spent) : (opened s : Diary σ H).Tells p where
  forward := List.pairwise_singleton _ _
  upTo l hl := by
    rw [List.mem_singleton.mp hl]
    exact Nat.le_refl _
  spent l hl := by
    rw [List.mem_singleton.mp hl]
    exact spent
  now := spent

/-- Another line, at a later phase. -/
theorem Tells.line (tells : d.Tells p) {x : Line σ H} (same : x.state = s)
    (later : (p.get d.now).phase.rank ≤ (p.get s).phase.rank) (spent : (p.get s).Spent) :
    Tells p ⟨s, d.lines ++ [x]⟩ := by
  have listed : lifetimes p ⟨s, d.lines ++ [x]⟩ = d.lifetimes p ++ [p.get s] := by
    rw [lifetimes, List.map_append, List.map_singleton, same]
    rfl
  have before : ∀ l ∈ d.lifetimes p, l.phase.rank ≤ (p.get s).phase.rank :=
    fun l hl => Nat.le_trans (tells.upTo l hl) later
  refine ⟨?_, ?_, ?_, spent⟩
  · rw [listed, List.pairwise_append]
    refine ⟨tells.forward, List.pairwise_singleton _ _, fun l hl l' hl' => ?_⟩
    rw [List.mem_singleton.mp hl']
    exact before l hl
  · rw [listed, List.forall_mem_append, List.forall_mem_singleton]
    exact ⟨before, Nat.le_refl _⟩
  · rw [listed, List.forall_mem_append, List.forall_mem_singleton]
    exact ⟨tells.spent, spent⟩

/-- Where hooks are only started while the phase is the second one, none is started in the last. -/
theorem Tells.none_started (tells : d.Tells p)
    (stopping : ∀ x ∈ d.starts, (p.get x.2).phase = .stopping) {before after : List (Line σ H)}
    {x : Line σ H} (split : d.lines = before ++ x :: after)
    (stopped : (p.get x.state).phase = .stopped) : ∀ y ∈ after, y.start? = none := by
  intro y hy
  have later : (p.get x.state).phase.rank ≤ (p.get y.state).phase.rank := by
    have forward := tells.forward
    rw [lifetimes, split, List.map_append, List.map_cons, List.pairwise_append] at forward
    exact (List.pairwise_cons.mp forward.2.1).1 _ (List.mem_map_of_mem hy)
  cases y with
  | passed s => rfl
  | started hook s =>
    have listed : (hook, s) ∈ d.starts := by
      refine List.mem_filterMap.mpr ⟨.started hook s, ?_, rfl⟩
      rw [split]
      exact List.mem_append_right _ (List.mem_cons_of_mem _ hy)
    have second : (p.get s).phase = .stopping := stopping _ listed
    rw [stopped, Line.state, second] at later
    exact absurd later (by decide)

theorem Tells.note (tells : d.Tells p) (r : Routine H ρ) : (r.note d).Tells p := by
  cases r with
  | fresh hook => exact tells.line rfl (Nat.le_refl _) tells.now
  | begun r => exact tells

end Diary

/-! ## Eras of a host that keeps a diary -/

/-- A host with `n` services is in an era, and its diary tells of the way there. -/
def HostStage.Told (stage : HostStage σ H ρ V F W) (lifetime provider n : Nat) (era : Era)
    (d : Diary σ H) : Prop :=
  stage.In lifetime provider n era d.now ∧ d.Tells (stage.lifetime lifetime)

/-- What is noted is one of the things that may be done. -/
def Jots (around : StateM σ Unit → Prop) (act : StateM (Diary σ H) Unit) : Prop :=
  ∃ m, around m ∧ act = jot m

theorem jots_map {around : StateM σ Unit → Prop} {acts : List (StateM σ Unit)}
    (allowed : ∀ m ∈ acts, around m) : ∀ act ∈ acts.map jot, Jots (H := H) around act := by
  intro act hact
  obtain ⟨m, hm, rfl⟩ := List.mem_map.mp hact
  exact ⟨m, allowed m hm, rfl⟩

section
variable {stage : HostStage σ H ρ V F W} {lifetime provider n : Nat} {era era' : Era} {d : Diary σ H}
  {s : σ}

/-- From one era to the next, to a later phase. -/
theorem HostStage.Told.enter (told : stage.Told lifetime provider n era d)
    (entered : stage.In lifetime provider n era' s)
    (later : ((stage.lifetime lifetime).get d.now).phase.rank ≤
      ((stage.lifetime lifetime).get s).phase.rank)
    (spent : ((stage.lifetime lifetime).get s).Spent) :
    stage.Told lifetime provider n era' (d.enter s) :=
  ⟨entered, told.2.line rfl later spent⟩

/-- Others use the lifetime, and the phase stays as it is. -/
theorem HostStage.Told.used (told : stage.Told lifetime provider n era d)
    (entered : stage.In lifetime provider n era' s)
    (uses : Lifetime.Uses ((stage.lifetime lifetime).get d.now) ((stage.lifetime lifetime).get s)) :
    stage.Told lifetime provider n era' (d.enter s) :=
  told.enter entered (Nat.le_of_eq (by rw [Lifetime.Uses.phase_eq uses]))
    (Lifetime.Uses.spent uses told.2.now)

theorem keeps_jot {m : StateM σ α} (minds : stage.Minds lifetime provider m) :
    Keeps (stage.Told lifetime provider n era) (jot m) :=
  fun d told => told.used (told.1.uses (minds d.now)) (minds d.now).lifetime

namespace HostStage.Guarded

/-- The host itself changes its lifetime. -/
theorem told_set (guarded : stage.Guarded lifetime provider)
    (told : stage.Told lifetime provider n era d) {l : Lifetime H W}
    (entered : stage.In lifetime provider n era' ((stage.lifetime lifetime).set l d.now))
    (later : ((stage.lifetime lifetime).get d.now).phase.rank ≤ l.phase.rank) (spent : l.Spent) :
    stage.Told lifetime provider n era' (d.enter ((stage.lifetime lifetime).set l d.now)) := by
  refine told.enter entered ?_ ?_
  · rwa [guarded.lifetime_set]
  · rwa [guarded.lifetime_set]

theorem respects_told (guarded : stage.Guarded lifetime provider) (n : Nat) (era : Era) :
    stage.diary.Respects lifetime provider (stage.Told lifetime provider n era) where
  timer t d told := told.used (guarded.in_timer told.1 t) (by rw [guarded.lifetime_timer])
  report e := keeps_jot (guarded.report e)
  poll r d told := by
    have noted : stage.Told lifetime provider n era (r.note d) := by
      refine ⟨?_, told.2.note r⟩
      rw [Routine.now_note]
      exact told.1
    have minds := guarded.poll (r.plain stage.toStage) (r.note d).now
    have used := noted.used (noted.1.uses minds) minds.lifetime
    rwa [Routine.now_note] at used
  abandon r := keeps_jot (guarded.abandon _)
  wake w := keeps_jot (guarded.wake w)
  discard := keeps_jot guarded.discard
  register d hook l told accepted := by
    refine told.used (((guarded.unfolds n).respects era).register d.now hook l told.1 accepted) ?_
    rw [guarded.lifetime_set]
    exact .single (.register accepted)
  keep d key v p kept told done :=
    told.used (((guarded.unfolds n).respects era).keep d.now key v p kept told.1 done)
      (by rw [guarded.lifetime_provider])

/-- A guarded host that keeps a diary goes from era to era by its own doing. -/
theorem unfolds_told (guarded : stage.Guarded lifetime provider) (n : Nat) :
    stage.diary.Unfolds lifetime provider (Jots (stage.Minds lifetime provider))
      (stage.Told lifetime provider n) n where
  respects := guarded.respects_told n
  around := by
    rintro _ ⟨m, minds, rfl⟩ era
    exact keeps_jot minds
  begins d told := guarded.told_set told ((guarded.unfolds n).begins d.now told.1)
    (Lifetime.rank_beginStopping _) (Lifetime.spent_beginStopping told.2.now)
  begun d told := by
    obtain ⟨entered, none_left⟩ := (guarded.unfolds n).begun d.now told.1
    exact ⟨guarded.told_set told entered (Lifetime.rank_beginStopping _)
      (Lifetime.spent_beginStopping told.2.now), none_left⟩
  stops d told := by
    have entered := (guarded.unfolds n).stops d.now (told.imp And.left And.left)
    rcases told with running | stopping
    · exact guarded.told_set running entered (Lifetime.rank_markStopped _)
        (Lifetime.spent_markStopped _)
    · exact guarded.told_set stopping entered (Lifetime.rank_markStopped _)
        (Lifetime.spent_markStopped _)
  releases d told := by
    obtain ⟨counted, entered⟩ := (guarded.unfolds n).releases d.now told.1
    exact ⟨counted, told.used entered (by rw [guarded.lifetime_provider])⟩

end HostStage.Guarded

end

/-! ## The lines of a diary -/

/-- No line is ever taken out of a diary. -/
theorem composed_lines (stage : HostStage σ H ρ V F W) (lifetime provider : Nat)
    (Q : Diary.Line σ H → Prop) :
    stage.diary.Composed (keepsKind fun d => ∃ x ∈ d.lines, Q x) lifetime provider := by
  have enters : ∀ {d : Diary σ H} (s : σ), (∃ x ∈ d.lines, Q x) → ∃ x ∈ (d.enter s).lines, Q x := by
    rintro d s ⟨x, listed, holds⟩
    exact ⟨x, List.mem_append_left _ listed, holds⟩
  have notes : ∀ (d : Diary σ H) (r : Routine H ρ), (∃ x ∈ d.lines, Q x) →
      ∃ x ∈ (r.note d).lines, Q x := by
    rintro d r ⟨x, listed, holds⟩
    cases r with
    | fresh hook => exact ⟨x, List.mem_append_left _ listed, holds⟩
    | begun r => exact ⟨x, listed, holds⟩
  exact {
    timer := ⟨keeps_read _, fun t _ before => enters _ before⟩
    report := fun e _ before => enters _ before
    poll := fun r d before => enters _ (notes d r before)
    abandon := fun r _ before => enters _ before
    lifetime := ⟨keeps_read _, fun l _ before => enters _ before⟩
    provider := ⟨keeps_read _, fun p _ before => enters _ before⟩
    wake := fun w _ before => enters _ before
    discard := fun _ before => enters _ before }

/-- What lasts from the time at which the lifetime has begun to stop holds in the end. -/
theorem Host.lasts_attempt [BEq W] {stage : HostStage σ H ρ V F W} {h : Host} {P : σ → Prop}
    (composed : stage.Composed (keepsKind P) h.lifetime h.provider) (fresh : h.report = none)
    {acts : List (StateM σ Unit)} (keeps : ∀ act ∈ acts, Keeps P act) {s : σ}
    (begun : P ((stage.lifetime h.lifetime).set ((stage.lifetime h.lifetime).get s).beginStopping.1 s)) :
    P (h.attempt stage acts s).2 := by
  obtain ⟨accounts, records, cut, t, rest, course, ended⟩ := exists_course stage fresh acts s
  have entered : P (h.enterStopping stage s).2 :=
    composed.report _ _ (has_forM composed.wake _ _ begun)
  obtain ⟨-, after⟩ := course.keeps composed.toComposed keeps entered
  rw [ended]
  cases cut with
  | some c => exact after
  | none => exact has_finish (closing composed) records t after

/-! ## The starts in a diary -/

section
variable (stage : HostStage σ H ρ V F W)

/-- The stage of a diary, for routines that have begun. -/
def HostStage.begun : HostStage (Diary σ H) H (Routine H ρ) V F W :=
  { stage.diary with poll := fun r => stage.diary.poll (.begun (r.plain stage.toStage)) }

/-- Nothing is started there. -/
theorem composed_begun (lifetime provider : Nat) (starts : List (Hook H × σ)) :
    stage.begun.Composed (keepsKind fun d => d.starts = starts) lifetime provider := by
  have enters : ∀ {d : Diary σ H} (s : σ), d.starts = starts → (d.enter s).starts = starts :=
    fun {d} s same => (Diary.starts_enter d s).trans same
  exact {
    timer := ⟨keeps_read _, fun t _ same => enters _ same⟩
    report := fun e _ same => enters _ same
    poll := fun r _ same => enters _ same
    abandon := fun r _ same => enters _ same
    lifetime := ⟨keeps_read _, fun l _ same => enters _ same⟩
    provider := ⟨keeps_read _, fun p _ same => enters _ same⟩
    wake := fun w _ same => enters _ same
    discard := fun _ same => enters _ same }

variable {stage} {d t : Diary σ H}

/-- A routine that waits has begun. -/
theorem pending_of_waiting {r r' : Routine H ρ} {d' : Diary σ H}
    (polled : stage.diary.poll r d = (.waiting r', d')) : r'.pending = [] := by
  have begun : (stage.poll (r.plain stage.toStage) d.now).1.begun = .waiting r' :=
    congrArg Prod.fst polled
  cases progress : (stage.poll (r.plain stage.toStage) d.now).1 with
  | waiting _ =>
    rw [progress] at begun
    cases begun
    rfl
  | finished _ | panicked _ =>
    rw [progress] at begun
    cases begun

variable [BEq W] {host : String} {timeout : Duration} {acts : List (StateM σ Unit)}
  {rest : List (StateM (Diary σ H) Unit)}

/-- A poll of a hook starts it if it has not begun, and nothing else. -/
theorem starts_of_pollHook {h : RunningHook (Routine H ρ)}
    {step : Step (RunningHook (Routine H ρ)) ShutdownRecord}
    (polled : Shutdown.pollHook stage.diary.toStage host timeout h d = (step, t)) :
    t.starts = d.starts ++ h.routine.pending.map fun hook => (hook, d.now) := by
  have noted : Shutdown.pollHook stage.diary.toStage host timeout h d =
      Shutdown.pollHook stage.begun.toStage host timeout h (h.routine.note d) := by
    obtain ⟨label, routine, since, limit⟩ := h
    cases routine <;> rfl
  have quiet := (composed_begun stage 0 0 (h.routine.note d).starts).has_pollHook host timeout h
  rw [← Routine.starts_note, ← quiet _ rfl, ← noted, polled]

theorem HookCourse.starts_eq {h : RunningHook (Routine H ρ)} {around : StateM σ Unit → Prop}
    {acts : List (StateM (Diary σ H) Unit)}
    {moments : List (Moment (Diary σ H))} {fate : Fate} {outcome : Except Cut ShutdownRecord}
    (course : HookCourse stage.diary.toStage host timeout h d acts moments fate outcome t rest)
    (jots : ∀ act ∈ acts, Jots around act) :
    t.starts = d.starts ++ h.routine.pending.map fun hook => (hook, d.now) := by
  induction course with
  | finished _ settled | timedOut _ settled | panicked _ settled => exact starts_of_pollHook settled
  | @dropped _ later _ _ t _ _ waits =>
    have quiet := composed_begun stage 0 0 t.starts
    rw [← starts_of_pollHook waits]
    exact quiet.abandon later.routine _ (quiet.has_lift later.limit t rfl)
  | @waited _ later _ _ t _ _ _ _ _ _ _ _ polled waits _ ih =>
    have begun : later.routine.pending = [] := by
      rw [(Shutdown.of_pollHook_waiting polled waits).1]
      exact pending_of_waiting polled
    obtain ⟨m, -, rfl⟩ := jots _ List.mem_cons_self
    rw [ih fun act hact => jots act (List.mem_cons_of_mem _ hact), begun, List.map_nil,
      List.append_nil, ← starts_of_pollHook waits]
    exact Diary.starts_enter t _

/-- The starts are those of the accounts. -/
theorem QueueCourse.starts_eq {queue : List (Hook H)} {around : StateM σ Unit → Prop}
    {acts : List (StateM (Diary σ H) Unit)} {accounts : List (Account (Diary σ H) H)}
    {records : List ShutdownRecord} {cut : Option Cut}
    (course : QueueCourse stage.diary.toStage host timeout queue d acts accounts records cut t rest)
    (jots : ∀ act ∈ acts, Jots around act) :
    t.starts = d.starts ++ accounts.map fun a => (a.hook, a.initial.now) := by
  induction course with
  | nothing => exact (List.append_nil _).symm
  | next first _ ih =>
    rw [ih fun act hact => jots act (first.suffix.subset hact), first.starts_eq jots,
      List.append_assoc]
    rfl
  | cut first => exact first.starts_eq jots

/-- The starts in the diary of an attempt are those of its accounts. -/
theorem Host.starts_conclude {h : Host} {around : StateM σ Unit → Prop}
    {acts : List (StateM (Diary σ H) Unit)} {accounts : List (Account (Diary σ H) H)}
    {records : List ShutdownRecord} {cut : Option Cut}
    (course : QueueCourse stage.diary.toStage h.settings.hostName h.settings.shutdownTimeout
      (h.enterStopping stage.diary d).1 (h.enterStopping stage.diary d).2 acts accounts records cut t
      rest)
    (jots : ∀ act ∈ acts, Jots around act) :
    (h.conclude stage.diary records cut t).2.starts =
      d.starts ++ accounts.map fun a => (a.hook, a.initial.now) := by
  have quiet := fun starts => composed_begun stage h.lifetime h.provider starts
  have entered : (h.enterStopping stage.diary d).2.starts = d.starts :=
    (quiet d.starts).report _ _ (has_forM (quiet d.starts).wake _ _ ((quiet d.starts).lifetime.write _ d rfl))
  rw [← entered, ← course.starts_eq jots]
  cases cut with
  | some c => rfl
  | none => exact has_finish (closing (quiet t.starts)) records t rfl

omit [BEq W] in
/-- A drop starts no hooks. -/
theorem Host.starts_drop (h : Host) (d : Diary σ H) : (h.drop stage.diary d).2.starts = d.starts :=
  has_drop (closing (composed_begun stage h.lifetime h.provider d.starts)) d rfl

/-- An attempt starts the first ones of the hooks that are handed over, and each of them while the
host is about to stop. -/
theorem Host.exists_started {h : Host} {n : Nat} (guarded : stage.Guarded h.lifetime h.provider)
    (fresh : h.report = none) (minds : ∀ m ∈ acts, stage.Minds h.lifetime h.provider m)
    (told : stage.Told h.lifetime h.provider n .running d ∨ stage.Told h.lifetime h.provider n .stopping d) :
    ∃ started, (h.attempt stage.diary (acts.map jot) d).2.starts = d.starts ++ started ∧
      started.map Prod.fst <+: ((stage.lifetime h.lifetime).get d.now).beginStopping.2.1 ∧
      ∀ x ∈ started, ((stage.lifetime h.lifetime).get x.2).phase = .stopping := by
  have unfolds := guarded.unfolds_told n
  have jots := jots_map (H := H) minds
  obtain ⟨accounts, records, cut, t, rest, course, ended⟩ :=
    exists_course stage.diary fresh (acts.map jot) d
  obtain ⟨stopping, -⟩ := course.keeps (unfolds.respects .stopping).composed
    (fun act hact => unfolds.around act (jots act hact) .stopping)
    (ensures_enterStopping unfolds d told)
  refine ⟨accounts.map fun a => (a.hook, a.initial.now), ?_, ?_, ?_⟩
  · rw [ended, starts_conclude course jots]
  · rw [List.map_map]
    exact course.hooks_prefix
  · intro x hx
    obtain ⟨a, ha, rfl⟩ := List.mem_map.mp hx
    exact (stopping a ha).1.phase

end

end HostBench
