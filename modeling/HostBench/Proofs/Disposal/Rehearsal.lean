/-
  A stage to rehearse disposals on. Its hooks rest on the timer of the stage and set alarms there,
  which they own (`theirs`); nothing else happens but that time passes (`second`). It is sound
  (`sound`), and seconds are what may pass between two polls (`passes_second`).
-/
import HostBench.Proofs.Disposal.Returning

namespace HostBench.Rehearsal

/-- What a hook does: it rests for a while and comes to a result, it never ends, or it panics. -/
inductive Job where
  | rest (length : Duration) (result : Except HookError Unit)
  | resting (p : Pause) (result : Except HookError Unit)
  | never
  | panic (message : String)

/-- A timer, the alarms that the hooks have set, and the lifetime and the provider of one host. -/
structure Scene where
  timer : Timer Unit
  theirs : List Nat
  lifetime : Lifetime Job Unit
  provider : Provider String Unit

/-- Asks about the pause of a hook. -/
def ask (p : Pause) (result : Except HookError Unit) : StateM Scene (Progress Job) := fun s =>
  let (t, q, up) := s.timer.poll p ()
  (if up then .finished result else .waiting (.resting q result),
    { s with timer := t, theirs := s.theirs ++ if p.alarm = none then q.alarm.toList else [] })

/-- Polls a hook. -/
def poll : Job → StateM Scene (Progress Job)
  | .rest length result => fun s => ask (s.timer.pause length) result s
  | .resting p result => ask p result
  | .never => return .waiting .never
  | .panic message => return .panicked message

/-- Abandons a hook, whose alarm is taken back. -/
def abandon : Job → StateM Scene Unit
  | .resting p _ => fun s =>
    ((), if p.alarm.all s.theirs.contains then { s with timer := s.timer.cancel p } else s)
  | _ => return ()

/-- A stage on which nothing happens but what the hooks do. -/
def stage : HostStage Scene Job Job String Unit Unit where
  timer := ⟨Scene.timer, fun t s => { s with timer := t }⟩
  waker := ()
  report _ := return ()
  start hook := hook.body
  poll := poll
  abandon := abandon
  provider _ := ⟨Scene.provider, fun p s => { s with provider := p }⟩
  lifetime _ := ⟨Scene.lifetime, fun l s => { s with lifetime := l }⟩
  wake _ := return ()
  discard := return ()

/-- The alarms of the hooks. -/
def theirs (s : Scene) (id : Nat) : Prop := id ∈ s.theirs

/-- A second passes. -/
def second : StateM Scene Unit := fun s =>
  let now := s.timer.now + 1000
  ((), { s with timer := { s.timer with
    now := now, alarms := s.timer.alarms.filter fun a => decide (now < a.due), budget := none } })

theorem moves_refl (h : Host) (s : Scene) : stage.MovesAtOnce h theirs s s where
  lifetime := .refl
  provider := .refl
  timer := .refl _ _
  now_eq := rfl

theorem moves_ask (h : Host) (p : Pause) (result : Except HookError Unit) (s : Scene) :
    stage.MovesAtOnce h theirs s (ask p result s).2 where
  lifetime := .refl
  provider := .refl
  timer := by
    have used : Timer.Use (theirs s) _ s.timer (s.timer.poll p ()).1 :=
      (Timer.looked_poll s.timer p ()).use
    refine ⟨used.next_le, used.kept, used.known, fun id owned => used.owned id ?_⟩
    rcases List.mem_append.mp owned with old | new
    · exact .inl old
    · split at new
      · rename_i unset
        exact .inr ⟨unset, Option.mem_toList.mp new⟩
      · cases new
  now_eq := (Timer.looked_poll s.timer p ()).now_eq

theorem moves_abandon (h : Host) (p : Pause) (result : Except HookError Unit) (s : Scene) :
    stage.MovesAtOnce h theirs s (abandon (.resting p result) s).2 := by
  show stage.MovesAtOnce h theirs s
    (if p.alarm.all s.theirs.contains then { s with timer := s.timer.cancel p } else s)
  by_cases owned : p.alarm.all s.theirs.contains = true
  · rw [if_pos owned]
    have own : ∀ id, p.alarm = some id → theirs s id := by
      intro id set
      rw [set, Option.all_some] at owned
      exact List.contains_iff_mem.mp owned
    exact {
      lifetime := .refl
      provider := .refl
      timer := Timer.use_cancel s.timer own
      now_eq := (Timer.dues_cancel s.timer p).1 }
  · rw [if_neg owned]
    exact moves_refl h s

theorem sound (h : Host) : stage.Sound h theirs where
  timer_set _ _ := rfl
  timer_lifetime _ _ := rfl
  timer_provider _ _ := rfl
  lifetime_set _ _ := rfl
  lifetime_timer _ _ := rfl
  lifetime_provider _ _ := rfl
  provider_set _ _ := rfl
  provider_timer _ _ := rfl
  provider_lifetime _ _ := rfl
  theirs_timer _ _ := rfl
  theirs_lifetime _ _ := rfl
  theirs_provider _ _ := rfl
  poll r s := by
    cases r with
    | rest length result => exact moves_ask h _ result s
    | resting p result => exact moves_ask h p result s
    | never | panic message => exact moves_refl h s
  abandon r s := by
    cases r with
    | resting p result => exact moves_abandon h p result s
    | _ => exact moves_refl h s
  report _ s := moves_refl h s
  wake _ s := moves_refl h s
  discard s := moves_refl h s

theorem passes_second (h : Host) : stage.Passes h theirs second where
  moves s := by
    refine ⟨.refl, .refl, Nat.le_refl _, ?_, ?_, fun id owned => .inl owned⟩
    · intro x hx _
      obtain ⟨a, ha, rfl⟩ := List.mem_map.mp hx
      by_cases later : s.timer.now + 1000 < a.due
      · exact .inr (List.mem_map.mpr ⟨a, List.mem_filter.mpr ⟨ha, decide_eq_true later⟩, rfl⟩)
      · exact .inl (Nat.le_of_not_lt later)
    · intro x hx
      obtain ⟨a, ha, rfl⟩ := List.mem_map.mp hx
      exact .inl (List.mem_map.mpr ⟨a, (List.mem_filter.mp ha).1, rfl⟩)
  now_le s := Nat.le_add_right _ _
  rung s := by
    intro x hx
    obtain ⟨a, ha, rfl⟩ := List.mem_map.mp hx
    exact of_decide_eq_true (List.mem_filter.mp ha).2
  budget s := rfl

theorem goes_second (h : Host) : stage.Goes h theirs fun _ => second where
  passes _ := passes_second h
  onward _ := ⟨0, fun s => Nat.lt_add_of_pos_right (by decide)⟩

/-! ## Jobs that do not panic -/

/-- The job does not panic. -/
def Job.Calm : Job → Prop
  | .panic _ => False
  | _ => True

theorem ask_fst (p : Pause) (result : Except HookError Unit) (s : Scene) :
    (ask p result s).1 =
      if (s.timer.poll p ()).2.2 then .finished result
      else .waiting (.resting (s.timer.poll p ()).2.1 result) := rfl

theorem calm_of_ask {p : Pause} {result : Except HookError Unit} {s : Scene} :
    (∀ job, (ask p result s).1 = .waiting job → job.Calm) ∧
      ∀ message, (ask p result s).1 ≠ .panicked message := by
  rw [ask_fst]
  by_cases up : (s.timer.poll p ()).2.2 = true
  · rw [if_pos up]
    constructor
    · intro job waits
      cases waits
    · intro message panics
      cases panics
  · rw [if_neg up]
    constructor
    · intro job waits
      cases waits
      trivial
    · intro message panics
      cases panics

/-- A poll leaves a job that does not panic as such a job. -/
theorem calm_of_poll {job : Job} (calm : job.Calm) (s : Scene) :
    (∀ job', (stage.poll job s).1 = .waiting job' → job'.Calm) ∧
      ∀ message, (stage.poll job s).1 ≠ .panicked message := by
  cases job with
  | rest length result => exact calm_of_ask
  | resting p result => exact calm_of_ask
  | never =>
    constructor
    · intro job' waits
      cases waits
      trivial
    · intro message panics
      cases panics
  | panic message => exact absurd calm id

theorem neverPanics {job : Job} (calm : job.Calm) : stage.NeverPanics job := by
  intro moments message polls
  generalize panicked : Progress.panicked message = progress at polls
  induction polls with
  | @last job s s' progress polled =>
    subst panicked
    exact (calm_of_poll calm s).2 message (congrArg Prod.fst polled)
  | @more job job' s s' moments progress polled _ ih =>
    exact ih ((calm_of_poll calm s).1 job' (congrArg Prod.fst polled)) panicked

/-! ## A host with four hooks -/

/-- A host that gives its hooks five seconds each. -/
def host : Host := .new .default 0 0

/-- One hook rests for a second, one fails, one never ends, and one rests for two and a half
seconds. -/
def four : Scene where
  timer := .start
  theirs := []
  lifetime := ⟨.running, [⟨"flush", .rest (.ofSeconds 1) (.ok ())⟩,
    ⟨"broken", .rest .zero (.error ⟨"no"⟩)⟩, ⟨"stuck", .never⟩,
    ⟨"close", .rest (.ofMillis 2500) (.ok ())⟩], []⟩
  provider := .ofRegistry .empty

theorem calm_four :
    ∀ hook ∈ ((stage.lifetime host.lifetime).get four).hooks, stage.NeverPanics (stage.start hook) := by
  have calm : ∀ hook ∈ ((stage.lifetime host.lifetime).get four).hooks, hook.body.Calm := by
    simp [stage, four, Job.Calm]
  exact fun hook hhook => neverPanics (calm hook hhook)

end HostBench.Rehearsal
