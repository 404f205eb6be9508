/-
  The course of a disposal. Whoever disposes a host polls the disposal again and again, and between
  two polls others act. The disposal ends when it returns, when a hook panics, or when it is given up
  while it waits (`Host.attempt`).

  The rules of `HookCourse` and `QueueCourse` tell what becomes of the hooks on the way, hook by hook,
  while the polls of a disposal run through all that does not have to wait. `exists_course` shows that
  every disposal takes such a course.
-/
import HostBench.Host

namespace HostBench

variable {σ H ρ V F W : Type}

/-! ## Polls of a hook -/

/-- The status of a hook that has run to its end. -/
def HookStatus.ofResult : Except HookError Unit → HookStatus
  | .ok () => .completed
  | .error e => .failed e

namespace Shutdown

variable [BEq W] {stage : Stage σ H ρ W} {host : String} {timeout : Duration} {h : RunningHook ρ}
  {s s' : σ}

theorem pollHook_of_panicked {message : String}
    (polled : stage.poll h.routine s = (.panicked message, s')) :
    pollHook stage host timeout h s = (.panicked message, (stage.lift h.limit s').2) := by
  have looked : stage.timer.read s = (stage.timer.get s, s) := rfl
  simp only [pollHook, bind, StateT.bind, looked, polled]
  rfl

/-- The state in which a hook leaves everything that has run to its end. -/
def settle (stage : Stage σ H ρ W) (host : String) (h : RunningHook ρ)
    (result : Except HookError Unit) (s : σ) : σ :=
  match result with
  | .ok () => (stage.lift h.limit s).2
  | .error e => (stage.report (.hookFailed host h.label e.message) (stage.lift h.limit s).2).2

theorem pollHook_of_finished {result : Except HookError Unit}
    (polled : stage.poll h.routine s = (.finished result, s')) :
    pollHook stage host timeout h s =
      (.done ⟨h.label, .ofResult result,
        Millis.since (stage.timer.get (stage.lift h.limit s').2).now h.since⟩,
        settle stage host h result s') := by
  have looked : stage.timer.read s = (stage.timer.get s, s) := rfl
  simp only [pollHook, bind, StateT.bind, looked, polled]
  cases result with
  | ok u => cases u; rfl
  | error e => rfl

/-- The state in which a hook leaves everything that has taken too long. -/
def cutOff (stage : Stage σ H ρ W) (host : String) (timeout : Duration) (h : RunningHook ρ) (r : ρ)
    (s : σ) : σ :=
  (stage.report (.hookTimedOut host h.label timeout) (stage.abandon r s).2).2

theorem pollHook_of_up {r : ρ} {limit : Option Pause} {t : σ}
    (polled : stage.poll h.routine s = (.waiting r, s'))
    (asked : stage.isUp (!(stage.timer.get s).exhausted) h.limit s' = ((limit, true), t)) :
    pollHook stage host timeout h s =
      (.done ⟨h.label, .timedOut,
        Millis.since (stage.timer.get (cutOff stage host timeout h r t)).now h.since⟩,
        cutOff stage host timeout h r t) := by
  have looked : stage.timer.read s = (stage.timer.get s, s) := rfl
  simp only [pollHook, bind, StateT.bind, looked, polled, asked]
  rfl

theorem pollHook_of_waiting {r : ρ} {limit : Option Pause} {t : σ}
    (polled : stage.poll h.routine s = (.waiting r, s'))
    (asked : stage.isUp (!(stage.timer.get s).exhausted) h.limit s' = ((limit, false), t)) :
    pollHook stage host timeout h s = (.waiting { h with routine := r, limit := limit }, t) := by
  have looked : stage.timer.read s = (stage.timer.get s, s) := rfl
  simp only [pollHook, bind, StateT.bind, looked, polled, asked]
  rfl

theorem of_pollHook_waiting {r : ρ} {later : RunningHook ρ} {t : σ}
    (polled : stage.poll h.routine s = (.waiting r, s'))
    (waits : pollHook stage host timeout h s = (.waiting later, t)) :
    later.routine = r ∧ later.label = h.label ∧ later.since = h.since ∧
      stage.isUp (!(stage.timer.get s).exhausted) h.limit s' = ((later.limit, false), t) := by
  cases asked : stage.isUp (!(stage.timer.get s).exhausted) h.limit s' with
  | mk answer u =>
    obtain ⟨limit, up⟩ := answer
    cases up with
    | true =>
      rw [pollHook_of_up polled asked] at waits
      cases waits
    | false =>
      rw [pollHook_of_waiting polled asked] at waits
      cases waits
      exact ⟨rfl, rfl, rfl, rfl⟩

theorem of_pollHook_done {r : ρ} {record : ShutdownRecord} {t : σ}
    (polled : stage.poll h.routine s = (.waiting r, s'))
    (settled : pollHook stage host timeout h s = (.done record, t)) :
    ∃ limit u, stage.isUp (!(stage.timer.get s).exhausted) h.limit s' = ((limit, true), u) ∧
      t = cutOff stage host timeout h r u ∧
      record = ⟨h.label, .timedOut, Millis.since (stage.timer.get t).now h.since⟩ := by
  cases asked : stage.isUp (!(stage.timer.get s).exhausted) h.limit s' with
  | mk answer u =>
    obtain ⟨limit, up⟩ := answer
    cases up with
    | true =>
      rw [pollHook_of_up polled asked] at settled
      cases settled
      exact ⟨limit, u, rfl, rfl, rfl⟩
    | false =>
      rw [pollHook_of_waiting polled asked] at settled
      cases settled

/-- What a poll of the running hook comes to, by what the hook comes to. -/
theorem pollHook_cases (stage : Stage σ H ρ W) (host : String) (timeout : Duration)
    (h : RunningHook ρ) (s : σ) :
    (∃ message s' t, stage.poll h.routine s = (.panicked message, s') ∧
      pollHook stage host timeout h s = (.panicked message, t)) ∨
    (∃ result record s' t, stage.poll h.routine s = (.finished result, s') ∧
      pollHook stage host timeout h s = (.done record, t)) ∨
    (∃ r record s' t, stage.poll h.routine s = (.waiting r, s') ∧
      pollHook stage host timeout h s = (.done record, t)) ∨
    ∃ r h' s' t, stage.poll h.routine s = (.waiting r, s') ∧
      pollHook stage host timeout h s = (.waiting h', t) := by
  cases polled : stage.poll h.routine s with
  | mk progress s' =>
    cases progress with
    | panicked message => exact .inl ⟨_, _, _, rfl, pollHook_of_panicked polled⟩
    | finished result => exact .inr (.inl ⟨_, _, _, _, rfl, pollHook_of_finished polled⟩)
    | waiting r =>
      cases asked : stage.isUp (!(stage.timer.get s).exhausted) h.limit s' with
      | mk answer t =>
        obtain ⟨limit, up⟩ := answer
        cases up with
        | true => exact .inr (.inr (.inl ⟨_, _, _, _, rfl, pollHook_of_up polled asked⟩))
        | false => exact .inr (.inr (.inr ⟨_, _, _, _, rfl, pollHook_of_waiting polled asked⟩))

end Shutdown

/-! ## Courses -/

/-- One poll of a hook: the state before it and after it. -/
structure Moment (σ : Type) where
  before : σ
  after : σ

/-- How a disposal is cut short. -/
inductive Cut where
  /-- A hook panics. -/
  | panicked (message : String)
  /-- It is given up while a hook waits. -/
  | dropped

/-- What becomes of a hook that was started. -/
inductive Fate where
  /-- It runs to its end. -/
  | finished (result : Except HookError Unit)
  /-- It still waits when its time is up, and is abandoned. -/
  | timedOut
  /-- It ends with the whole disposal. -/
  | cut (c : Cut)

/-- The status of a hook that does not cut the disposal short. -/
def Fate.status? : Fate → Option HookStatus
  | .finished result => some (.ofResult result)
  | .timedOut => some .timedOut
  | .cut _ => none

/-- What becomes of a hook fits what its last poll came to. -/
def Fate.Fits : Fate → Progress ρ → Prop
  | .finished result, .finished result' => result = result'
  | .timedOut, .waiting _ => True
  | .cut (.panicked message), .panicked message' => message = message'
  | .cut .dropped, .waiting _ => True
  | _, _ => False

/-- The polls of a routine, one after the other. Up to the last it waits. -/
inductive Stage.Polls (stage : Stage σ H ρ W) : ρ → List (Moment σ) → Progress ρ → Prop
  | last {r : ρ} {s s' : σ} {progress : Progress ρ} (polled : stage.poll r s = (progress, s')) :
      Polls stage r [⟨s, s'⟩] progress
  | more {r r' : ρ} {s s' : σ} {moments : List (Moment σ)} {progress : Progress ρ}
      (polled : stage.poll r s = (.waiting r', s')) (later : Polls stage r' moments progress) :
      Polls stage r (⟨s, s'⟩ :: moments) progress

/-- What happened to a hook: the state in which it was started, its polls, what became of it, and the
state in which it left everything to those after it. -/
structure Account (σ H : Type) where
  hook : Hook H
  initial : σ
  moments : List (Moment σ)
  fate : Fate
  final : σ

/-- What happens to the running hook, while others act between its polls: its moments, its fate, its
record unless the disposal is cut short, the state after that, and who is left to act. -/
inductive HookCourse [BEq W] (stage : Stage σ H ρ W) (host : String) (timeout : Duration) :
    RunningHook ρ → σ → List (StateM σ Unit) →
      List (Moment σ) → Fate → Except Cut ShutdownRecord → σ → List (StateM σ Unit) → Prop
  | finished {h : RunningHook ρ} {s s' t : σ} {acts : List (StateM σ Unit)}
      {result : Except HookError Unit} {record : ShutdownRecord}
      (polled : stage.poll h.routine s = (.finished result, s'))
      (settled : Shutdown.pollHook stage host timeout h s = (.done record, t)) :
      HookCourse stage host timeout h s acts [⟨s, s'⟩] (.finished result) (.ok record) t acts
  | timedOut {h : RunningHook ρ} {s s' t : σ} {acts : List (StateM σ Unit)} {r : ρ}
      {record : ShutdownRecord} (polled : stage.poll h.routine s = (.waiting r, s'))
      (settled : Shutdown.pollHook stage host timeout h s = (.done record, t)) :
      HookCourse stage host timeout h s acts [⟨s, s'⟩] .timedOut (.ok record) t acts
  | panicked {h : RunningHook ρ} {s s' t : σ} {acts : List (StateM σ Unit)} {message : String}
      (polled : stage.poll h.routine s = (.panicked message, s'))
      (settled : Shutdown.pollHook stage host timeout h s = (.panicked message, t)) :
      HookCourse stage host timeout h s acts [⟨s, s'⟩] (.cut (.panicked message))
        (.error (.panicked message)) t acts
  | dropped {h h' : RunningHook ρ} {s s' t : σ} {r : ρ}
      (polled : stage.poll h.routine s = (.waiting r, s'))
      (waits : Shutdown.pollHook stage host timeout h s = (.waiting h', t)) :
      HookCourse stage host timeout h s [] [⟨s, s'⟩] (.cut .dropped) (.error .dropped)
        (stage.abandon h'.routine (stage.lift h'.limit t).2).2 []
  | waited {h h' : RunningHook ρ} {s s' t u : σ} {r : ρ} {act : StateM σ Unit}
      {acts rest : List (StateM σ Unit)} {moments : List (Moment σ)} {fate : Fate}
      {outcome : Except Cut ShutdownRecord}
      (polled : stage.poll h.routine s = (.waiting r, s'))
      (waits : Shutdown.pollHook stage host timeout h s = (.waiting h', t))
      (later : HookCourse stage host timeout h' (act t).2 acts moments fate outcome u rest) :
      HookCourse stage host timeout h s (act :: acts) (⟨s, s'⟩ :: moments) fate outcome u rest

/-- A hook before its first poll. -/
def Stage.launch (stage : Stage σ H ρ W) (timeout : Duration) (hook : Hook H) (s : σ) :
    RunningHook ρ :=
  ⟨hook.label, stage.start hook, (stage.timer.get s).now, (stage.timer.get s).limit timeout⟩

/-- What happens to the hooks of a queue: the accounts of those that were started, the records, how
the disposal was cut short if it was, the state after that, and who is left to act. -/
inductive QueueCourse [BEq W] (stage : Stage σ H ρ W) (host : String) (timeout : Duration) :
    List (Hook H) → σ → List (StateM σ Unit) →
      List (Account σ H) → List ShutdownRecord → Option Cut → σ → List (StateM σ Unit) → Prop
  | nothing {s : σ} {acts : List (StateM σ Unit)} :
      QueueCourse stage host timeout [] s acts [] [] none s acts
  | next {hook : Hook H} {queue : List (Hook H)} {s t u : σ} {acts rest left : List (StateM σ Unit)}
      {moments : List (Moment σ)} {fate : Fate} {record : ShutdownRecord}
      {accounts : List (Account σ H)} {records : List ShutdownRecord} {cut : Option Cut}
      (first : HookCourse stage host timeout (stage.launch timeout hook s) s acts moments fate
        (.ok record) t rest)
      (others : QueueCourse stage host timeout queue t rest accounts records cut u left) :
      QueueCourse stage host timeout (hook :: queue) s acts (⟨hook, s, moments, fate, t⟩ :: accounts)
        (record :: records) cut u left
  | cut {hook : Hook H} {queue : List (Hook H)} {s t : σ} {acts rest : List (StateM σ Unit)}
      {moments : List (Moment σ)} {fate : Fate} {c : Cut}
      (first : HookCourse stage host timeout (stage.launch timeout hook s) s acts moments fate
        (.error c) t rest) :
      QueueCourse stage host timeout (hook :: queue) s acts [⟨hook, s, moments, fate, t⟩] []
        (some c) t rest

namespace HookCourse

variable [BEq W] {stage : Stage σ H ρ W} {host : String} {timeout : Duration} {h : RunningHook ρ}
  {s t : σ} {acts rest : List (StateM σ Unit)} {moments : List (Moment σ)} {fate : Fate}
  {outcome : Except Cut ShutdownRecord}

/-- The moments of a course are the polls of the hook. -/
theorem polls (course : HookCourse stage host timeout h s acts moments fate outcome t rest) :
    ∃ progress, stage.Polls h.routine moments progress ∧ fate.Fits progress := by
  induction course with
  | finished polled _ => exact ⟨_, .last polled, rfl⟩
  | timedOut polled _ => exact ⟨_, .last polled, trivial⟩
  | panicked polled _ => exact ⟨_, .last polled, rfl⟩
  | dropped polled _ => exact ⟨_, .last polled, trivial⟩
  | waited polled waits _ ih =>
    obtain ⟨progress, later, fits⟩ := ih
    rw [(Shutdown.of_pollHook_waiting polled waits).1] at later
    exact ⟨progress, .more polled later, fits⟩

/-- The record of a hook has its label, and says what became of it. -/
theorem record_of_ended {record : ShutdownRecord}
    (course : HookCourse stage host timeout h s acts moments fate (.ok record) t rest) :
    record.label = h.label ∧ fate.status? = some record.status := by
  generalize ended : Except.ok record = outcome at course
  induction course with
  | finished polled settled =>
    cases ended
    rw [Shutdown.pollHook_of_finished polled] at settled
    cases settled
    exact ⟨rfl, rfl⟩
  | timedOut polled settled =>
    cases ended
    obtain ⟨_, _, -, -, rfl⟩ := Shutdown.of_pollHook_done polled settled
    exact ⟨rfl, rfl⟩
  | panicked _ _ | dropped _ _ => cases ended
  | waited polled waits _ ih =>
    rw [← (Shutdown.of_pollHook_waiting polled waits).2.1]
    exact ih ended

/-- A hook that cuts its disposal short ends with it. -/
theorem fate_of_cut {c : Cut}
    (course : HookCourse stage host timeout h s acts moments fate (.error c) t rest) :
    fate = .cut c := by
  generalize ended : Except.error c = outcome at course
  induction course with
  | finished _ _ | timedOut _ _ => cases ended
  | panicked _ _ | dropped _ _ =>
    cases ended
    rfl
  | waited _ _ _ ih => exact ih ended

end HookCourse

/-! ## Disposals -/

/-- How an attempt to dispose a host ends. -/
inductive Ending where
  | returned (h : Host) (report : ShutdownReport)
  | cut (c : Cut)

/-- The report with which an attempt returns. -/
def Ending.report? : Ending → Option ShutdownReport
  | .returned _ report => some report
  | .cut _ => none

theorem Ending.exists_returned {x : Ending × σ} {report : ShutdownReport}
    (reported : x.1.report? = some report) : ∃ h s, x = (.returned h report, s) := by
  obtain ⟨e, s⟩ := x
  cases e with
  | returned h report' =>
    cases reported
    exact ⟨h, s, rfl⟩
  | cut c => cases reported

namespace Host

variable [BEq W]

/-- Follows a disposal to its end, with what others do between two polls. When nobody is left to act,
it is given up. -/
def follow (stage : HostStage σ H ρ V F W) :
    List (StateM σ Unit) → Step (Disposal H ρ) (Host × ShutdownReport) → StateM σ Ending
  | _, .done (h, report) => return .returned h report
  | _, .panicked message => return .cut (.panicked message)
  | [], .waiting d => do
    cancelDisposal stage d
    return .cut .dropped
  | act :: acts, .waiting d => do
    act
    follow stage acts (← pollDisposal stage d)

/-- An attempt to dispose a host, with what others do between two polls. -/
def attempt (stage : HostStage σ H ρ V F W) (h : Host) (acts : List (StateM σ Unit)) :
    StateM σ Ending := do
  follow stage acts (← h.dispose stage)

/-- How a disposal begins: the lifetime hands over its hooks. -/
def enterStopping (stage : HostStage σ H ρ V F W) (h : Host) : StateM σ (List (Hook H)) := do
  let (l, hooks, woken) := (← (stage.lifetime h.lifetime).read).beginStopping
  (stage.lifetime h.lifetime).write l
  woken.forM stage.wake
  stage.report (.shutdownInitiated h.settings.hostName hooks.length h.settings.shutdownTimeout)
  return hooks

/-- How an attempt ends after the course of its hooks. -/
def conclude (stage : HostStage σ H ρ V F W) (h : Host) (records : List ShutdownRecord) :
    Option Cut → σ → Ending × σ
  | some c, s => (.cut c, s)
  | none, s => (.returned (h.finish stage records s).1.1 (h.finish stage records s).1.2,
      (h.finish stage records s).2)

theorem dispose_of_fresh {stage : HostStage σ H ρ V F W} {h : Host} (fresh : h.report = none) (s : σ) :
    h.dispose stage s = pollDisposal stage ⟨h, ⟨h.settings.hostName, h.settings.shutdownTimeout, none,
      (h.enterStopping stage s).1, []⟩⟩ (h.enterStopping stage s).2 := by
  unfold dispose
  rw [fresh]
  rfl

/-! ## Every disposal takes a course -/

end Host

namespace Shutdown

variable [BEq W] {stage : Stage σ H ρ W} {host : String} {timeout : Duration}

/-- How a poll of a shutdown goes on after a poll of a hook. -/
def afterHook (stage : Stage σ H ρ W) (host : String) (timeout : Duration) (queue : List (Hook H))
    (records : List ShutdownRecord) :
    Step (RunningHook ρ) ShutdownRecord → StateM σ (Step (Shutdown H ρ) (List ShutdownRecord))
  | .panicked message => return .panicked message
  | .waiting h => return .waiting ⟨host, timeout, some h, queue, records⟩
  | .done r => startNext stage host timeout queue (records ++ [r])

theorem startNext_cons {hook : Hook H} {queue : List (Hook H)} {records : List ShutdownRecord} (s : σ) :
    startNext stage host timeout (hook :: queue) records s =
      afterHook stage host timeout queue records
        (pollHook stage host timeout (stage.launch timeout hook s) s).1
        (pollHook stage host timeout (stage.launch timeout hook s) s).2 := by
  have looked : stage.timer.read s = (stage.timer.get s, s) := rfl
  simp only [startNext, bind, StateT.bind, looked, Stage.launch]
  generalize pollHook stage host timeout _ s = x
  obtain ⟨step, t⟩ := x
  cases step <;> rfl

theorem poll_of_running {h : RunningHook ρ} {queue : List (Hook H)} {records : List ShutdownRecord}
    (s : σ) :
    poll stage ⟨host, timeout, some h, queue, records⟩ s =
      afterHook stage host timeout queue records (pollHook stage host timeout h s).1
        (pollHook stage host timeout h s).2 := by
  simp only [poll, bind, StateT.bind]
  generalize pollHook stage host timeout h s = x
  obtain ⟨step, t⟩ := x
  cases step <;> rfl

end Shutdown

namespace Host

variable [BEq W] {stage : HostStage σ H ρ V F W} {h : Host}

/-- How an attempt goes on when its shutdown has been polled. -/
def goOn (stage : HostStage σ H ρ V F W) (h : Host) (acts : List (StateM σ Unit)) :
    Step (Shutdown H ρ) (List ShutdownRecord) → StateM σ Ending
  | .waiting s => follow stage acts (.waiting ⟨h, s⟩)
  | .panicked message => return .cut (.panicked message)
  | .done records => fun s => h.conclude stage records none s

theorem follow_pollDisposal (d : Shutdown H ρ) (acts : List (StateM σ Unit)) (s : σ) :
    follow stage acts (pollDisposal stage ⟨h, d⟩ s).1 (pollDisposal stage ⟨h, d⟩ s).2 =
      goOn stage h acts (d.poll stage.toStage s).1 (d.poll stage.toStage s).2 := by
  simp only [pollDisposal, bind, StateT.bind]
  generalize d.poll stage.toStage s = x
  obtain ⟨step, t⟩ := x
  cases step with
  | waiting d => rfl
  | panicked message => cases acts <;> rfl
  | done records => cases acts <;> rfl

/-- How an attempt goes on with a queue of hooks. -/
def fromQueue (stage : HostStage σ H ρ V F W) (h : Host) (queue : List (Hook H))
    (records : List ShutdownRecord) (acts : List (StateM σ Unit)) (s : σ) : Ending × σ :=
  let x := Shutdown.startNext stage.toStage h.settings.hostName h.settings.shutdownTimeout queue
    records s
  goOn stage h acts x.1 x.2

/-- How an attempt goes on with a running hook. -/
def fromHook (stage : HostStage σ H ρ V F W) (h : Host) (running : RunningHook ρ)
    (queue : List (Hook H)) (records : List ShutdownRecord) (acts : List (StateM σ Unit)) (s : σ) :
    Ending × σ :=
  let x := Shutdown.pollHook stage.toStage h.settings.hostName h.settings.shutdownTimeout running s
  let y := Shutdown.afterHook stage.toStage h.settings.hostName h.settings.shutdownTimeout queue
    records x.1 x.2
  goOn stage h acts y.1 y.2

theorem fromQueue_cons {hook : Hook H} {queue : List (Hook H)} {records : List ShutdownRecord}
    {acts : List (StateM σ Unit)} (s : σ) :
    h.fromQueue stage (hook :: queue) records acts s =
      h.fromHook stage (stage.launch h.settings.shutdownTimeout hook s) queue records acts s := by
  unfold fromQueue fromHook
  rw [Shutdown.startNext_cons]

theorem goOn_waiting {running : RunningHook ρ} {queue : List (Hook H)}
    {records : List ShutdownRecord} {act : StateM σ Unit} {acts : List (StateM σ Unit)} (s : σ) :
    goOn stage h (act :: acts) (.waiting
      ⟨h.settings.hostName, h.settings.shutdownTimeout, some running, queue, records⟩) s =
        h.fromHook stage running queue records acts (act s).2 := by
  show _ = goOn stage h acts (Shutdown.afterHook _ _ _ _ _ _ _).1 (Shutdown.afterHook _ _ _ _ _ _ _).2
  rw [← Shutdown.poll_of_running, ← follow_pollDisposal]
  rfl

theorem attempt_of_fresh (fresh : h.report = none) (acts : List (StateM σ Unit)) (s : σ) :
    h.attempt stage acts s =
      h.fromQueue stage (h.enterStopping stage s).1 [] acts (h.enterStopping stage s).2 := by
  have entered : h.attempt stage acts s = follow stage acts (h.dispose stage s).1
    (h.dispose stage s).2 := rfl
  rw [entered, dispose_of_fresh fresh, follow_pollDisposal]
  rfl

/-- How an attempt goes on after the course of a hook. -/
def fromOutcome (stage : HostStage σ H ρ V F W) (h : Host) (queue : List (Hook H))
    (records : List ShutdownRecord) (acts : List (StateM σ Unit)) (s : σ) :
    Except Cut ShutdownRecord → Ending × σ
  | .ok record => h.fromQueue stage queue (records ++ [record]) acts s
  | .error c => (.cut c, s)

/-- After the course of the running hook an attempt goes on with the queue, or it is cut short. -/
theorem fromHook_of_course {running : RunningHook ρ} {s t : σ} {acts rest : List (StateM σ Unit)}
    {moments : List (Moment σ)} {fate : Fate} {outcome : Except Cut ShutdownRecord}
    (course : HookCourse stage.toStage h.settings.hostName h.settings.shutdownTimeout running s acts
      moments fate outcome t rest) (queue : List (Hook H)) (records : List ShutdownRecord) :
    h.fromHook stage running queue records acts s =
      h.fromOutcome stage queue records rest t outcome := by
  induction course with
  | finished _ settled | timedOut _ settled | panicked _ settled =>
    unfold fromHook
    rw [settled]
    rfl
  | dropped _ waits =>
    unfold fromHook
    rw [waits]
    rfl
  | waited _ waits _ ih =>
    rw [← ih, ← goOn_waiting]
    unfold fromHook
    rw [waits]
    rfl

/-- An attempt ends as the course of its queue says. -/
theorem fromQueue_of_course {queue : List (Hook H)} {s t : σ} {acts rest : List (StateM σ Unit)}
    {accounts : List (Account σ H)} {records : List ShutdownRecord} {cut : Option Cut}
    (course : QueueCourse stage.toStage h.settings.hostName h.settings.shutdownTimeout queue s acts
      accounts records cut t rest) (before : List ShutdownRecord) :
    h.fromQueue stage queue before acts s = h.conclude stage (before ++ records) cut t := by
  induction course generalizing before with
  | nothing =>
    rw [List.append_nil]
    rfl
  | next first _ ih =>
    rw [fromQueue_cons, fromHook_of_course first, fromOutcome, ih, List.append_assoc,
      List.singleton_append]
  | cut first =>
    rw [fromQueue_cons, fromHook_of_course first]
    rfl

theorem attempt_of_course (fresh : h.report = none) {s t : σ} {acts rest : List (StateM σ Unit)}
    {accounts : List (Account σ H)} {records : List ShutdownRecord} {cut : Option Cut}
    (course : QueueCourse stage.toStage h.settings.hostName h.settings.shutdownTimeout
      (h.enterStopping stage s).1 (h.enterStopping stage s).2 acts accounts records cut t rest) :
    h.attempt stage acts s = h.conclude stage records cut t := by
  rw [attempt_of_fresh fresh, fromQueue_of_course course, List.nil_append]

end Host

/-! ## There is always a course -/

section
variable [BEq W] (stage : Stage σ H ρ W) (host : String) (timeout : Duration)

theorem exists_hookCourse (acts : List (StateM σ Unit)) (h : RunningHook ρ) (s : σ) :
    ∃ moments fate outcome t rest,
      HookCourse stage host timeout h s acts moments fate outcome t rest := by
  induction acts generalizing h s with
  | nil =>
    rcases Shutdown.pollHook_cases stage host timeout h s with
      ⟨message, s', t, polled, settled⟩ | ⟨result, record, s', t, polled, settled⟩ |
      ⟨r, record, s', t, polled, settled⟩ | ⟨r, h', s', t, polled, waits⟩
    · exact ⟨_, _, _, _, _, .panicked polled settled⟩
    · exact ⟨_, _, _, _, _, .finished polled settled⟩
    · exact ⟨_, _, _, _, _, .timedOut polled settled⟩
    · exact ⟨_, _, _, _, _, .dropped polled waits⟩
  | cons act acts ih =>
    rcases Shutdown.pollHook_cases stage host timeout h s with
      ⟨message, s', t, polled, settled⟩ | ⟨result, record, s', t, polled, settled⟩ |
      ⟨r, record, s', t, polled, settled⟩ | ⟨r, h', s', t, polled, waits⟩
    · exact ⟨_, _, _, _, _, .panicked polled settled⟩
    · exact ⟨_, _, _, _, _, .finished polled settled⟩
    · exact ⟨_, _, _, _, _, .timedOut polled settled⟩
    · obtain ⟨_, _, _, _, _, later⟩ := ih h' (act t).2
      exact ⟨_, _, _, _, _, .waited polled waits later⟩

theorem exists_queueCourse (queue : List (Hook H)) (acts : List (StateM σ Unit)) (s : σ) :
    ∃ accounts records cut t rest,
      QueueCourse stage host timeout queue s acts accounts records cut t rest := by
  induction queue generalizing acts s with
  | nil => exact ⟨_, _, _, _, _, .nothing⟩
  | cons hook queue ih =>
    obtain ⟨moments, fate, outcome, t, rest, first⟩ :=
      exists_hookCourse stage host timeout acts (stage.launch timeout hook s) s
    cases outcome with
    | error c => exact ⟨_, _, _, _, _, .cut first⟩
    | ok record =>
      obtain ⟨_, _, _, _, _, others⟩ := ih rest t
      exact ⟨_, _, _, _, _, .next first others⟩

end

/-- Every attempt to dispose a host that has no report takes a course. -/
theorem exists_course [BEq W] (stage : HostStage σ H ρ V F W) {h : Host} (fresh : h.report = none)
    (acts : List (StateM σ Unit)) (s : σ) :
    ∃ accounts records cut t rest,
      QueueCourse stage.toStage h.settings.hostName h.settings.shutdownTimeout
        (h.enterStopping stage s).1 (h.enterStopping stage s).2 acts accounts records cut t rest ∧
      h.attempt stage acts s = h.conclude stage records cut t := by
  obtain ⟨accounts, records, cut, t, rest, course⟩ :=
    exists_queueCourse stage.toStage h.settings.hostName h.settings.shutdownTimeout
      (h.enterStopping stage s).1 acts (h.enterStopping stage s).2
  exact ⟨accounts, records, cut, t, rest, course, Host.attempt_of_course fresh course⟩

/-! ## What a disposal answers -/

namespace Host

variable [BEq W] (stage : HostStage σ H ρ V F W)

/-- What a poll of a disposal answers is about a host: it is the one that is still being disposed, or
what has been disposed is kept where it was. -/
def Answers (h : Host) : Step (Disposal H ρ) (Host × ShutdownReport) → Prop
  | .waiting x => x.host = h
  | .done (h', _) => h'.provider = h.provider ∧ h'.lifetime = h.lifetime
  | .panicked _ => True

theorem answers_pollDisposal (x : Disposal H ρ) (s : σ) :
    x.host.Answers (pollDisposal stage x s).1 := by
  simp only [pollDisposal, bind, StateT.bind]
  generalize x.shutdown.poll stage.toStage s = polled
  obtain ⟨step, t⟩ := polled
  cases step with
  | waiting shutdown => exact rfl
  | panicked message => trivial
  | done records => exact ⟨rfl, rfl⟩

theorem answers_dispose (h : Host) (s : σ) : h.Answers (h.dispose stage s).1 := by
  cases reported : h.report with
  | some report =>
    unfold dispose
    rw [reported]
    exact ⟨rfl, rfl⟩
  | none =>
    rw [dispose_of_fresh reported]
    exact answers_pollDisposal stage _ _

end Host

end HostBench
