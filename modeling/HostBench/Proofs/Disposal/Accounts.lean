/-
  What the accounts of hooks tell. While others keep to what is theirs, every poll of a hook finds a
  host that is stopping and offers what it offered before. A hook has time left after each poll but
  the last, and one that is abandoned has none (`Account.Orderly`). `QueueCourse.orderly` proves it of
  all hooks of a queue, by what a single poll leaves behind (`HookCourse.told`).
-/
import HostBench.Proofs.Disposal.Steady
import Mathlib.Algebra.GroupWithZero.Nat
import Mathlib.Data.List.Forall2

namespace HostBench

variable {σ H ρ V F W : Type} {stage : HostStage σ H ρ V F W} {h : Host} {theirs : σ → Nat → Prop}
  {offered : Provider V F} {timeout : Duration}

/-- A host that is stopping: it still offers what `offered` does, and refuses new hooks. -/
structure HostStage.Serving (stage : HostStage σ H ρ V F W) (h : Host) (offered : Provider V F)
    (s : σ) : Prop where
  phase : ((stage.lifetime h.lifetime).get s).phase = .stopping
  offers : offered.StillOffers ((stage.provider h.provider).get s)
  refuses : ∀ hook,
    ((stage.lifetime h.lifetime).get s).register hook = .error ⟨"register_on_stop"⟩

theorem HostStage.Steady.serving {s : σ} (steady : stage.Steady h theirs offered s) :
    stage.Serving h offered s := ⟨steady.phase, steady.offers, steady.refuses⟩

/-- The point of the timer at which the time of a hook is up, if there is one. -/
def Stage.deadline (stage : Stage σ H ρ W) (timeout : Duration) (start : σ) : Option Millis :=
  ((stage.timer.get start).limit timeout).map Pause.due

/-- What the account of a hook tells, which got a record. -/
structure Account.Orderly (stage : HostStage σ H ρ V F W) (h : Host) (offered : Provider V F)
    (timeout : Duration) (a : Account σ H) (record : ShutdownRecord) : Prop where
  /-- The moments are the polls of the hook from its start. -/
  polls : ∃ progress, stage.Polls (stage.start a.hook) a.moments progress ∧ a.fate.Fits progress
  starts : ∃ m, a.moments.head? = some m ∧ m.before = a.initial
  /-- The host is stopping and serving before and after each poll. -/
  serving : ∀ m ∈ a.moments, stage.Serving h offered m.before ∧ stage.Serving h offered m.after
  /-- The hook waits on only while its time is not up. -/
  in_time : ∀ m ∈ a.moments.dropLast, ¬ stage.Expired (stage.deadline timeout a.initial) m.after
  /-- A hook that is abandoned still waits when its time is up. -/
  timed_out : a.fate = .timedOut → ∃ m, a.moments.getLast? = some m ∧
    stage.Expired (stage.deadline timeout a.initial) m.after
  label : record.label = a.hook.label
  status : a.fate.status? = some record.status
  elapsed : record.elapsed =
    Millis.since (stage.timer.get a.final).now (stage.timer.get a.initial).now
  now_le : (stage.timer.get a.initial).now ≤ (stage.timer.get a.final).now

/-! ## One hook -/

/-- What the course of a running hook tells. -/
structure HookCourse.Told (stage : HostStage σ H ρ V F W) (h : Host) (theirs : σ → Nat → Prop)
    (offered : Provider V F) (running : RunningHook ρ) (s : σ) (moments : List (Moment σ))
    (fate : Fate) (record : ShutdownRecord) (t : σ) : Prop where
  steady : stage.Steady h theirs offered t
  starts : ∃ m, moments.head? = some m ∧ m.before = s
  serving : ∀ m ∈ moments, stage.Steady h theirs offered m.before ∧
    stage.Steady h theirs offered m.after
  in_time : ∀ m ∈ moments.dropLast, ¬ stage.Expired (running.limit.map Pause.due) m.after
  timed_out : fate = .timedOut → ∃ m, moments.getLast? = some m ∧
    stage.Expired (running.limit.map Pause.due) m.after
  elapsed : record.elapsed = Millis.since (stage.timer.get t).now running.since
  now_le : (stage.timer.get s).now ≤ (stage.timer.get t).now

theorem expired_of_now_eq {stage : Stage σ H ρ W} {deadline : Option Millis} {s s' : σ}
    (now_eq : (stage.timer.get s').now = (stage.timer.get s).now) :
    stage.Expired deadline s' ↔ stage.Expired deadline s := by
  unfold Stage.Expired
  rw [now_eq]

/-- The poll with which a course ends. -/
theorem HookCourse.told_last {running : RunningHook ρ} {s s' t : σ} {fate : Fate}
    {record : ShutdownRecord} (ready : stage.Ready h theirs offered running.limit s)
    (m : stage.MovesAtOnce h theirs s s') (steady : stage.Steady h theirs offered t)
    (now_eq : (stage.timer.get t).now = (stage.timer.get s).now)
    (expired : fate = .timedOut → stage.Expired (running.limit.map Pause.due) s)
    (elapsed : record.elapsed = Millis.since (stage.timer.get t).now running.since) :
    HookCourse.Told stage h theirs offered running s [⟨s, s'⟩] fate record t where
  steady := steady
  starts := ⟨_, rfl, rfl⟩
  serving x hx := by
    rw [List.mem_singleton.mp hx]
    exact ⟨ready.steady, ready.steady.moves m.toMoves⟩
  in_time x hx := absurd hx List.not_mem_nil
  timed_out timed := ⟨_, rfl, (expired_of_now_eq m.now_eq).mpr (expired timed)⟩
  elapsed := elapsed
  now_le := Nat.le_of_eq now_eq.symm

/-- A poll after which the hook waits on. -/
theorem HookCourse.Told.waited {running later : RunningHook ρ} {s s' t u : σ} {act : StateM σ Unit}
    {moments : List (Moment σ)} {fate : Fate} {record : ShutdownRecord}
    (told : HookCourse.Told stage h theirs offered later (act t).2 moments fate record u)
    (ready : stage.Ready h theirs offered running.limit s) (m : stage.MovesAtOnce h theirs s s')
    (measured : stage.Measured h theirs offered running.limit s later.limit false t)
    (on : ¬ stage.Expired (running.limit.map Pause.due) s)
    (passes : stage.Passes h theirs act) (since_eq : later.since = running.since) :
    HookCourse.Told stage h theirs offered running s (⟨s, s'⟩ :: moments) fate record u := by
  have some_left : moments ≠ [] := by
    obtain ⟨x, first, -⟩ := told.starts
    rintro rfl
    cases first
  constructor
  case steady => exact told.steady
  case starts => exact ⟨_, rfl, rfl⟩
  case serving =>
    intro x hx
    rcases List.mem_cons.mp hx with rfl | hx
    · exact ⟨ready.steady, ready.steady.moves m.toMoves⟩
    · exact told.serving x hx
  case in_time =>
    intro x hx
    rw [List.dropLast_cons_of_ne_nil some_left] at hx
    rcases List.mem_cons.mp hx with rfl | hx
    · exact fun expired => on ((expired_of_now_eq m.now_eq).mp expired)
    · rw [← measured.deadline_eq]
      exact told.in_time x hx
  case timed_out =>
    intro timed
    obtain ⟨x, last, expired⟩ := told.timed_out timed
    refine ⟨x, ?_, measured.deadline_eq ▸ expired⟩
    rw [List.getLast?_cons_of_ne_nil some_left]
    exact last
  case elapsed => rw [told.elapsed, since_eq]
  case now_le =>
    have passed := passes.now_le t
    rw [measured.now_eq] at passed
    exact Nat.le_trans passed told.now_le

/-- A course tells what it does, poll by poll. -/
theorem HookCourse.told [BEq W] {host : String} {running : RunningHook ρ} {s t : σ}
    {acts rest : List (StateM σ Unit)} {moments : List (Moment σ)} {fate : Fate}
    {record : ShutdownRecord} (sound : stage.Sound h theirs)
    (passes : ∀ act ∈ acts, stage.Passes h theirs act)
    (course : HookCourse stage.toStage host timeout running s acts moments fate (.ok record) t rest)
    (ready : stage.Ready h theirs offered running.limit s) :
    HookCourse.Told stage h theirs offered running s moments fate record t ∧ rest ⊆ acts := by
  generalize ended : Except.ok record = outcome at course
  induction course with
  | @finished running s s' t acts result record' polled settled =>
    cases ended
    have m := sound.poll running.routine s
    rw [polled] at m
    obtain ⟨steady, now_eq, recorded⟩ := ready.of_finished sound polled settled
    refine ⟨told_last ready m steady now_eq (fun timed => by cases timed) ?_, List.Subset.refl _⟩
    rw [recorded]
  | @timedOut running s s' t acts r record' polled settled =>
    cases ended
    have m := sound.poll running.routine s
    rw [polled] at m
    obtain ⟨steady, now_eq, expired⟩ := ready.of_timedOut sound polled settled
    obtain ⟨_, _, -, -, recorded⟩ := Shutdown.of_pollHook_done polled settled
    refine ⟨told_last ready m steady now_eq (fun _ => expired) ?_, List.Subset.refl _⟩
    rw [recorded]
  | panicked _ _ | dropped _ _ => cases ended
  | @waited running later s s' t u r act acts rest moments fate outcome polled waits _ ih =>
    have m := sound.poll running.routine s
    rw [polled] at m
    obtain ⟨measured, on⟩ := ready.of_waiting sound polled waits
    have passes_act := passes act List.mem_cons_self
    obtain ⟨told, left⟩ := ih (fun a ha => passes a (List.mem_cons_of_mem _ ha))
      (measured.pass passes_act) ended
    obtain ⟨-, -, since_eq, -⟩ := Shutdown.of_pollHook_waiting polled waits
    exact ⟨told.waited ready m measured on passes_act since_eq,
      List.subset_cons_of_subset _ left⟩

/-! ## All hooks of a queue -/

/-- The accounts follow each other without a gap, from one state to another. -/
def Linked : σ → List (Account σ H) → σ → Prop
  | s, [], t => t = s
  | s, a :: accounts, t => a.initial = s ∧ Linked a.final accounts t

/-- How long a hook took, by the timer. -/
def Account.span (stage : Stage σ H ρ W) (a : Account σ H) : Nat :=
  (stage.timer.get a.final).now - (stage.timer.get a.initial).now

/-- The time between two states is the sum of what the hooks in between took. -/
theorem Linked.sum_span {stage : Stage σ H ρ W} {s t : σ} {accounts : List (Account σ H)}
    (linked : Linked s accounts t)
    (forward : ∀ a ∈ accounts, (stage.timer.get a.initial).now ≤ (stage.timer.get a.final).now) :
    (stage.timer.get t).now = (stage.timer.get s).now + (accounts.map (Account.span stage)).sum := by
  induction accounts generalizing s with
  | nil =>
    cases linked
    rfl
  | cons a accounts ih =>
    obtain ⟨rfl, linked⟩ := linked
    have rest := ih linked fun b hb => forward b (List.mem_cons_of_mem _ hb)
    have own := forward a List.mem_cons_self
    rw [rest, List.map_cons, List.sum_cons, Account.span, ← Nat.add_assoc, Nat.add_sub_cancel' own]

theorem Timer.of_limit {t : Timer W} {d : Duration} {p : Pause} (limited : t.limit d = some p) :
    p.alarm = none ∧ p.due = t.now + d.toMillisUp := by
  unfold limit at limited
  split at limited
  · cases limited
    exact ⟨rfl, rfl⟩
  · cases limited

theorem Duration.toMillisUp_pos {d : Duration} (positive : .zero < d) : 0 < d.toMillisUp := by
  have := lt_def.mp positive
  rw [toNanos_zero] at this
  unfold toMillisUp
  omega

/-- A hook that has just been started may be polled. -/
theorem HostStage.Steady.ready {s : σ} (steady : stage.Steady h theirs offered s)
    (positive : .zero < timeout) (hook : Hook H) :
    stage.Ready h theirs offered (stage.launch timeout hook s).limit s where
  steady := steady
  armed _ limited := Timer.armed_of_unset (Timer.of_limit limited).1
  timely := by
    refine .inl fun p limited => ?_
    obtain ⟨unset, due⟩ := Timer.of_limit limited
    refine ⟨unset, ?_⟩
    rw [due]
    exact Nat.lt_add_of_pos_right (Duration.toMillisUp_pos positive)

/-- The hooks of a queue are started one after the other, and each account tells what it should. -/
theorem QueueCourse.orderly [BEq W] {host : String} {queue : List (Hook H)} {s t : σ}
    {acts rest : List (StateM σ Unit)} {accounts : List (Account σ H)}
    {records : List ShutdownRecord} (sound : stage.Sound h theirs) (positive : .zero < timeout)
    (passes : ∀ act ∈ acts, stage.Passes h theirs act)
    (course : QueueCourse stage.toStage host timeout queue s acts accounts records none t rest)
    (steady : stage.Steady h theirs offered s) :
    accounts.map Account.hook = queue ∧ Linked s accounts t ∧
      List.Forall₂ (Account.Orderly stage h offered timeout) accounts records ∧
      stage.Steady h theirs offered t := by
  generalize whole : (none : Option Cut) = cut at course
  induction course with
  | nothing => exact ⟨rfl, rfl, .nil, steady⟩
  | cut first => cases whole
  | @next hook queue s t u acts rest left moments fate record accounts records cut first _ ih =>
    obtain ⟨told, fewer⟩ := first.told sound passes (steady.ready positive hook)
    obtain ⟨hooks, linked, orderly, steady'⟩ :=
      ih (fun a ha => passes a (fewer ha)) told.steady whole
    obtain ⟨label, status⟩ := first.record_of_ended
    refine ⟨by rw [List.map_cons, hooks], ⟨rfl, linked⟩, .cons ?_ orderly, steady'⟩
    exact {
      polls := first.polls
      starts := told.starts
      serving := fun m hm => ⟨(told.serving m hm).1.serving, (told.serving m hm).2.serving⟩
      in_time := told.in_time
      timed_out := told.timed_out
      label := label
      status := status
      elapsed := told.elapsed
      now_le := told.now_le }

end HostBench
