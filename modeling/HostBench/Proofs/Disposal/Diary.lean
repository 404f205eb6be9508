/-
  Hosts that keep a diary. It has a line for every state that is passed through, as the record of a
  watched host has, and one for every start of a hook. So that a start can be told from a later poll,
  a routine that has not begun is kept as its hook (`Diary.Routine`).

  Keeping a diary makes no difference to what is done (`renders_attempt`, `renders_drop`). Watched
  hosts mirror each other state by state; here the routines differ as well, so a program renders
  another one only up to a map of its answers (`Renders`).
-/
import HostBench.Proofs.Disposal.Eras

namespace HostBench

variable {σ H ρ V F W α β : Type}

/-! ## Diaries -/

/-- A line of a diary. -/
inductive Diary.Line (σ H : Type) where
  | passed (s : σ)
  | started (hook : Hook H) (s : σ)

/-- A state, and the lines that were written up to it. -/
structure Diary (σ H : Type) where
  now : σ
  lines : List (Diary.Line σ H)

namespace Diary

/-- The state at the time of a line. -/
def Line.state : Line σ H → σ
  | .passed s | .started _ s => s

/-- The hook that was started, and the state at that time. -/
def Line.start? : Line σ H → Option (Hook H × σ)
  | .passed _ => none
  | .started hook s => some (hook, s)

/-- The diary that is opened in a state. -/
def opened (s : σ) : Diary σ H := ⟨s, [.passed s]⟩

/-- Goes on to a state. -/
def enter (d : Diary σ H) (s : σ) : Diary σ H := ⟨s, d.lines ++ [.passed s]⟩

/-- Notes the start of a hook. -/
def begin (d : Diary σ H) (hook : Hook H) : Diary σ H := ⟨d.now, d.lines ++ [.started hook d.now]⟩

/-- The hooks that were started, in order, each with the state at that time. -/
def starts (d : Diary σ H) : List (Hook H × σ) := d.lines.filterMap Line.start?

@[simp] theorem starts_enter (d : Diary σ H) (s : σ) : (d.enter s).starts = d.starts := by
  simp [starts, enter, Line.start?]

@[simp] theorem starts_begin (d : Diary σ H) (hook : Hook H) :
    (d.begin hook).starts = d.starts ++ [(hook, d.now)] := by
  simp [starts, begin, Line.start?]

/-- A routine, or the hook if it has not begun. -/
inductive Routine (H ρ : Type) where
  | fresh (hook : Hook H)
  | begun (r : ρ)

namespace Routine

/-- The routine of the stage itself. -/
def plain (stage : Stage σ H ρ W) : Routine H ρ → ρ
  | .fresh hook => stage.start hook
  | .begun r => r

/-- The hook that the next poll starts. -/
def pending : Routine H ρ → List (Hook H)
  | .fresh hook => [hook]
  | .begun _ => []

/-- Notes the start of the routine if it has not begun. -/
def note (d : Diary σ H) : Routine H ρ → Diary σ H
  | .fresh hook => d.begin hook
  | .begun _ => d

@[simp] theorem now_note (r : Routine H ρ) (d : Diary σ H) : (r.note d).now = d.now := by
  cases r <;> rfl

theorem starts_note (r : Routine H ρ) (d : Diary σ H) :
    (r.note d).starts = d.starts ++ r.pending.map fun hook => (hook, d.now) := by
  cases r with
  | fresh hook => exact starts_begin d hook
  | begun r => exact (List.append_nil _).symm

end Routine

end Diary

open Diary (Routine)

/-- The progress of a routine that has begun. -/
def Progress.begun : Progress ρ → Progress (Routine H ρ)
  | .waiting r => .waiting (.begun r)
  | .finished result => .finished result
  | .panicked message => .panicked message

/-- A place of the state that a diary is about. -/
def Place.diary (p : Place σ α) : Place (Diary σ H) α :=
  ⟨fun d => p.get d.now, fun a d => d.enter (p.set a d.now)⟩

/-- Does what is done to the state, and goes on to what comes of it. -/
def jot (m : StateM σ α) : StateM (Diary σ H) α := fun d => ((m d.now).1, d.enter (m d.now).2)

/-- A stage on which every state is noted. -/
def HostStage.noted (stage : HostStage σ H ρ V F W) : HostStage (Diary σ H) H ρ V F W where
  timer := stage.timer.diary
  waker := stage.waker
  report e := jot (stage.report e)
  start := stage.start
  poll r := jot (stage.poll r)
  abandon r := jot (stage.abandon r)
  provider i := (stage.provider i).diary
  lifetime i := (stage.lifetime i).diary
  wake w := jot (stage.wake w)
  discard := jot stage.discard

/-- A stage on which a diary is kept: the starts of hooks are noted as well. -/
def HostStage.diary (stage : HostStage σ H ρ V F W) :
    HostStage (Diary σ H) H (Routine H ρ) V F W where
  timer := stage.noted.timer
  waker := stage.noted.waker
  report := stage.noted.report
  start := .fresh
  poll r d := ((stage.poll (r.plain stage.toStage) d.now).1.begun,
    (r.note d).enter (stage.poll (r.plain stage.toStage) d.now).2)
  abandon r := jot (stage.abandon (r.plain stage.toStage))
  provider := stage.noted.provider
  lifetime := stage.noted.lifetime
  wake := stage.noted.wake
  discard := stage.noted.discard

theorem HostStage.along_noted (stage : HostStage σ H ρ V F W) :
    HostStage.Along (Diary.now : Diary σ H → σ) stage.noted stage where
  timer := ⟨fun _ => rfl, fun _ _ => rfl⟩
  waker := rfl
  report _ _ := ⟨rfl, rfl⟩
  start := rfl
  poll _ _ := ⟨rfl, rfl⟩
  abandon _ _ := ⟨rfl, rfl⟩
  lifetime _ := ⟨fun _ => rfl, fun _ _ => rfl⟩
  provider _ := ⟨fun _ => rfl, fun _ _ => rfl⟩
  wake _ _ := ⟨rfl, rfl⟩
  discard _ := ⟨rfl, rfl⟩

/-! ## A diary makes no difference -/

/-- A program gives, up to a map of answers, what another gives in the image of the state, and the
images of the states after that are the same. -/
def Renders (f : α → β) (m' : StateM (Diary σ H) α) (m : StateM σ β) : Prop :=
  ∀ d, f (m' d).1 = (m d.now).1 ∧ (m' d).2.now = (m d.now).2

theorem Mirrors.renders {m' : StateM (Diary σ H) α} {m : StateM σ α}
    (mirrors : Mirrors Diary.now m' m) : Renders id m' m := mirrors

theorem Renders.bind {α' β' : Type} {f : α → β} {g : α' → β'} {m' : StateM (Diary σ H) α}
    {m : StateM σ β} {k' : α → StateM (Diary σ H) α'} {k : β → StateM σ β'} (first : Renders f m' m)
    (next : ∀ a, Renders g (k' a) (k (f a))) : Renders g (m' >>= k') (m >>= k) := by
  intro d
  obtain ⟨answer, after⟩ := first d
  show g (k' (m' d).1 (m' d).2).1 = (k (m d.now).1 (m d.now).2).1 ∧
    (k' (m' d).1 (m' d).2).2.now = (k (m d.now).1 (m d.now).2).2
  rw [← answer, ← after]
  exact next _ _

theorem renders_pure {f : α → β} (a : α) : Renders f (pure a : StateM (Diary σ H) α) (pure (f a)) :=
  fun _ => ⟨rfl, rfl⟩

section Plain

variable (stage : HostStage σ H ρ V F W)

/-- The progress of the routine of the stage itself. -/
def Progress.plain : Progress (Routine H ρ) → Progress ρ
  | .waiting r => .waiting (r.plain stage.toStage)
  | .finished result => .finished result
  | .panicked message => .panicked message

/-- The running hook of the stage itself. -/
def RunningHook.plain (h : RunningHook (Routine H ρ)) : RunningHook ρ :=
  ⟨h.label, h.routine.plain stage.toStage, h.since, h.limit⟩

/-- The shutdown of the stage itself. -/
def Shutdown.plain (s : Shutdown H (Routine H ρ)) : Shutdown H ρ :=
  ⟨s.host, s.timeout, s.running.map (·.plain stage), s.queue, s.records⟩

/-- What something comes to, where something else is waited for. -/
def Step.plain {α' : Type} (f : α → α') : Step α β → Step α' β
  | .waiting a => .waiting (f a)
  | .done b => .done b
  | .panicked message => .panicked message

/-- The disposal of the stage itself. -/
def Disposal.plain (d : Disposal H (Routine H ρ)) : Disposal H ρ := ⟨d.host, d.shutdown.plain stage⟩

theorem renders_poll (r : Routine H ρ) :
    Renders (Progress.plain stage) (stage.diary.poll r) (stage.poll (r.plain stage.toStage)) := by
  intro d
  refine ⟨?_, rfl⟩
  show Progress.plain stage (stage.poll (r.plain stage.toStage) d.now).1.begun = _
  cases (stage.poll (r.plain stage.toStage) d.now).1 <;> rfl

theorem renders_abandonShutdown (s : Shutdown H (Routine H ρ)) :
    Renders id (s.abandon stage.diary.toStage) ((s.plain stage).abandon stage.toStage) := by
  obtain ⟨host, timeout, running, queue, records⟩ := s
  cases running with
  | none => exact renders_pure _
  | some h =>
    refine (stage.along_noted.lift h.limit).renders.bind fun _ => ?_
    exact fun _ => ⟨rfl, rfl⟩

variable [BEq W]

theorem renders_pollHook (host : String) (timeout : Duration) (h : RunningHook (Routine H ρ)) :
    Renders (Step.plain (·.plain stage)) (Shutdown.pollHook stage.diary.toStage host timeout h)
      (Shutdown.pollHook stage.toStage host timeout (h.plain stage)) := by
  have along := stage.along_noted
  refine along.timer.read.renders.bind fun _ => (renders_poll stage h.routine).bind fun progress => ?_
  cases progress with
  | panicked message => exact (along.lift _).renders.bind fun _ => renders_pure _
  | finished result =>
    refine (along.lift _).renders.bind fun _ => along.now.renders.bind fun _ => ?_
    cases result with
    | ok u => exact renders_pure _
    | error e => exact (along.report _).renders.bind fun _ => renders_pure _
  | waiting r =>
    refine (along.isUp _ _).renders.bind fun ⟨limit, up⟩ => ?_
    cases up with
    | true =>
      refine Renders.bind (f := id) (fun _ => ⟨rfl, rfl⟩) fun _ => ?_
      exact (along.report _).renders.bind fun _ => along.now.renders.bind fun _ => renders_pure _
    | false => exact renders_pure _

theorem renders_startNext (host : String) (timeout : Duration) (queue : List (Hook H))
    (records : List ShutdownRecord) :
    Renders (Step.plain (·.plain stage))
      (Shutdown.startNext stage.diary.toStage host timeout queue records)
      (Shutdown.startNext stage.toStage host timeout queue records) := by
  induction queue generalizing records with
  | nil => exact renders_pure _
  | cons hook queue ih =>
    refine stage.along_noted.timer.read.renders.bind fun _ =>
      (renders_pollHook stage host timeout _).bind fun step => ?_
    cases step with
    | waiting h => exact renders_pure _
    | done r => exact ih _
    | panicked message => exact renders_pure _

theorem renders_pollShutdown (s : Shutdown H (Routine H ρ)) :
    Renders (Step.plain (·.plain stage)) (s.poll stage.diary.toStage)
      ((s.plain stage).poll stage.toStage) := by
  obtain ⟨host, timeout, running, queue, records⟩ := s
  cases running with
  | none => exact renders_startNext stage host timeout queue records
  | some h =>
    refine (renders_pollHook stage host timeout h).bind fun step => ?_
    cases step with
    | waiting h => exact renders_pure _
    | done r => exact renders_startNext stage host timeout queue _
    | panicked message => exact renders_pure _

theorem renders_pollDisposal (d : Disposal H (Routine H ρ)) :
    Renders (Step.plain (·.plain stage)) (Host.pollDisposal stage.diary d)
      (Host.pollDisposal stage (d.plain stage)) := by
  refine (renders_pollShutdown stage d.shutdown).bind fun step => ?_
  cases step with
  | waiting s => exact renders_pure _
  | panicked message => exact renders_pure _
  | done records =>
    exact (mirrors_finish stage.along_noted d.host records).renders.bind fun _ => renders_pure _

theorem renders_dispose (h : Host) :
    Renders (Step.plain (·.plain stage)) (h.dispose stage.diary) (h.dispose stage) := by
  have along := stage.along_noted
  unfold Host.dispose
  cases h.report with
  | some report => exact (along.report _).renders.bind fun _ => renders_pure _
  | none =>
    exact (along.lifetime _).read.renders.bind fun _ =>
      ((along.lifetime _).write _).renders.bind fun _ =>
        (mirrors_forM along.wake _).renders.bind fun _ => (along.report _).renders.bind fun _ =>
          renders_pollDisposal stage _

theorem renders_follow (acts : List (StateM σ Unit))
    (step : Step (Disposal H (Routine H ρ)) (Host × ShutdownReport)) :
    Renders id (Host.follow stage.diary (acts.map jot) step)
      (Host.follow stage acts (step.plain (·.plain stage))) := by
  induction acts generalizing step with
  | nil =>
    cases step with
    | waiting d => exact (renders_abandonShutdown stage d.shutdown).bind fun _ => renders_pure _
    | done x => exact renders_pure _
    | panicked message => exact renders_pure _
  | cons act acts ih =>
    cases step with
    | waiting d =>
      refine Renders.bind (f := id) (fun _ => ⟨rfl, rfl⟩) fun _ => ?_
      exact (renders_pollDisposal stage d).bind fun _ => ih _
    | done x => exact renders_pure _
    | panicked message => exact renders_pure _

/-- An attempt of which a diary is kept comes to what it comes to without. -/
theorem renders_attempt (h : Host) (acts : List (StateM σ Unit)) :
    Renders id (h.attempt stage.diary (acts.map jot)) (h.attempt stage acts) :=
  (renders_dispose stage h).bind fun step => renders_follow stage acts step

omit [BEq W] in
theorem renders_drop (h : Host) : Renders id (h.drop stage.diary) (h.drop stage) :=
  (mirrors_drop stage.along_noted h).renders

end Plain

end HostBench
