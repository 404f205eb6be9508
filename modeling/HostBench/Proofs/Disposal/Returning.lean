/-
  Why the hooks of a host come to an end. A hook may wait for ever, but the timer moves on while it
  waits, and so its limit is reached at some poll (`exists_ended_hook`). A limit that leads past the
  end of the time line is never reached; then the hook has to end by itself
  (`exists_ended_hook_of_waitsAtMost`). One hook after the other, the whole queue ends after finitely
  many polls (`exists_ended_queue`).
-/
import HostBench.Proofs.Disposal.Accounts

namespace HostBench

variable {σ H ρ V F W : Type} {stage : HostStage σ H ρ V F W} {h : Host} {theirs : σ → Nat → Prop}
  {offered : Provider V F} {timeout : Duration} {acts : Nat → StateM σ Unit}

/-- However often it is polled, the routine does not panic. -/
def Stage.NeverPanics (stage : Stage σ H ρ W) (r : ρ) : Prop :=
  ∀ moments message, ¬ stage.Polls r moments (.panicked message)

/-- However it is polled, the routine is found waiting `n` times at most. -/
def Stage.WaitsAtMost (stage : Stage σ H ρ W) (r : ρ) (n : Nat) : Prop :=
  ∀ moments r', stage.Polls r moments (.waiting r') → moments.length ≤ n

/-- What happens between the polls of a disposal, poll by poll for ever. Time passes again and
again. -/
structure HostStage.Goes (stage : HostStage σ H ρ V F W) (h : Host) (theirs : σ → Nat → Prop)
    (acts : Nat → StateM σ Unit) : Prop where
  passes : ∀ n, stage.Passes h theirs (acts n)
  onward : ∀ n, ∃ i, ∀ s, (stage.timer.get s).now < (stage.timer.get (acts (n + i) s).2).now

/-- What happens from one poll on, as often as said. -/
def window (acts : Nat → StateM σ Unit) (start count : Nat) : List (StateM σ Unit) :=
  (List.range' start count).map acts

theorem window_succ (start count : Nat) :
    window acts start (count + 1) = acts start :: window acts (start + 1) count := by
  simp [window, List.range'_succ]

theorem window_append (start m n : Nat) :
    window acts start m ++ window acts (start + m) n = window acts start (m + n) := by
  simp [window, ← List.map_append, List.range'_append_1]

/-- Those who are not needed for a course are left in the end. -/
theorem HookCourse.append [BEq W] {stage : Stage σ H ρ W} {host : String} {running : RunningHook ρ}
    {s t : σ} {acts rest : List (StateM σ Unit)} {moments : List (Moment σ)} {fate : Fate}
    {record : ShutdownRecord}
    (course : HookCourse stage host timeout running s acts moments fate (.ok record) t rest)
    (extra : List (StateM σ Unit)) :
    HookCourse stage host timeout running s (acts ++ extra) moments fate (.ok record) t
      (rest ++ extra) := by
  generalize ended : Except.ok record = outcome at course ⊢
  induction course with
  | finished polled settled => exact .finished polled settled
  | timedOut polled settled => exact .timedOut polled settled
  | panicked _ _ | dropped _ _ => cases ended
  | waited polled waits _ ih => exact .waited polled waits (ih ended)

/-- One poll of a hook that does not panic ends its course, or leaves it waiting with time left. -/
theorem ends_or_waits [BEq W] (host : String) (timeout : Duration) (sound : stage.Sound h theirs)
    {running : RunningHook ρ} {s : σ} (ready : stage.Ready h theirs offered running.limit s)
    (calm : stage.NeverPanics running.routine) :
    (∃ moments fate record t, HookCourse stage.toStage host timeout running s [] moments fate
      (.ok record) t []) ∨
    ∃ r later s' t, stage.poll running.routine s = (.waiting r, s') ∧
      Shutdown.pollHook stage.toStage host timeout running s = (.waiting later, t) ∧
      stage.Measured h theirs offered running.limit s later.limit false t ∧
      ¬ stage.Expired (running.limit.map Pause.due) s ∧ stage.NeverPanics later.routine ∧
      later.routine = r := by
  rcases Shutdown.pollHook_cases stage.toStage host timeout running s with
    ⟨message, s', t, polled, -⟩ | ⟨result, record, s', t, polled, settled⟩ |
    ⟨r, record, s', t, polled, settled⟩ | ⟨r, later, s', t, polled, waits⟩
  · exact absurd (.last polled) (calm _ message)
  · exact .inl ⟨_, _, _, _, .finished polled settled⟩
  · exact .inl ⟨_, _, _, _, .timedOut polled settled⟩
  · obtain ⟨measured, on⟩ := ready.of_waiting sound polled waits
    have same := (Shutdown.of_pollHook_waiting polled waits).1
    refine .inr ⟨r, later, s', t, polled, waits, measured, on, fun moments message polls => ?_, same⟩
    rw [same] at polls
    exact calm _ message (.more polled polls)

/-- A hook that is polled again and again gets its record at last. The induction is on the time that
is left, and then on the polls until time passes. -/
theorem exists_ended_hook [BEq W] (host : String) (timeout : Duration) (sound : stage.Sound h theirs)
    (goes : stage.Goes h theirs acts) {due : Millis} (left i : Nat) (running : RunningHook ρ) (s : σ)
    (k : Nat) (ready : stage.Ready h theirs offered running.limit s)
    (calm : stage.NeverPanics running.routine) (ends : running.limit.map Pause.due = some due)
    (short : due ≤ (stage.timer.get s).now + left)
    (onward : ∀ s, (stage.timer.get s).now < (stage.timer.get (acts (k + i) s).2).now) :
    ∃ n moments fate record t, HookCourse stage.toStage host timeout running s (window acts k n)
      moments fate (.ok record) t [] := by
  induction left generalizing i running s k with
  | zero =>
    rcases ends_or_waits host timeout sound ready calm with
      ended | ⟨r, later, s', t, polled, waits, measured, on, calm', -⟩
    · exact ⟨0, ended⟩
    · exact absurd ⟨due, ends, short⟩ on
  | succ left ih =>
    induction i generalizing running s k with
    | zero =>
      rcases ends_or_waits host timeout sound ready calm with
        ended | ⟨r, later, s', t, polled, waits, measured, on, calm', -⟩
      · exact ⟨0, ended⟩
      · obtain ⟨i, onward'⟩ := goes.onward (k + 1)
        have passed := onward t
        rw [measured.now_eq] at passed
        have short' : due ≤ (stage.timer.get (acts k t).2).now + left := by
          refine Nat.le_trans short ?_
          rw [Nat.add_comm left 1, ← Nat.add_assoc]
          exact Nat.add_le_add_right passed left
        obtain ⟨n, moments, fate, record, u, course⟩ := ih i later (acts k t).2 (k + 1)
          (measured.pass (goes.passes k)) calm' (measured.deadline_eq.trans ends) short' onward'
        have whole := HookCourse.waited polled waits course
        rw [← window_succ] at whole
        exact ⟨n + 1, _, _, _, _, whole⟩
    | succ i ih' =>
      rcases ends_or_waits host timeout sound ready calm with
        ended | ⟨r, later, s', t, polled, waits, measured, on, calm', -⟩
      · exact ⟨0, ended⟩
      · have passed := (goes.passes k).now_le t
        rw [measured.now_eq] at passed
        rw [← Nat.add_assoc, Nat.add_right_comm] at onward
        obtain ⟨n, moments, fate, record, u, course⟩ := ih' later (acts k t).2 (k + 1)
          (measured.pass (goes.passes k)) calm' (measured.deadline_eq.trans ends)
          (Nat.le_trans short (Nat.add_le_add_right passed _)) onward
        have whole := HookCourse.waited polled waits course
        rw [← window_succ] at whole
        exact ⟨n + 1, _, _, _, _, whole⟩

/-- A hook that does not wait for ever gets its record, whatever its limit is. -/
theorem exists_ended_hook_of_waitsAtMost [BEq W] (host : String) (timeout : Duration)
    (sound : stage.Sound h theirs) (goes : stage.Goes h theirs acts) (n : Nat)
    (running : RunningHook ρ) (s : σ) (k : Nat)
    (ready : stage.Ready h theirs offered running.limit s)
    (calm : stage.NeverPanics running.routine) (brief : stage.WaitsAtMost running.routine n) :
    ∃ n moments fate record t, HookCourse stage.toStage host timeout running s (window acts k n)
      moments fate (.ok record) t [] := by
  induction n generalizing running s k with
  | zero =>
    rcases ends_or_waits host timeout sound ready calm with
      ended | ⟨r, later, s', t, polled, waits, measured, on, calm', same⟩
    · exact ⟨0, ended⟩
    · exact absurd (brief _ _ (.last polled)) (Nat.not_succ_le_zero 0)
  | succ n ih =>
    rcases ends_or_waits host timeout sound ready calm with
      ended | ⟨r, later, s', t, polled, waits, measured, on, calm', same⟩
    · exact ⟨0, ended⟩
    · have brief' : stage.WaitsAtMost later.routine n := by
        intro moments r' polls
        rw [same] at polls
        exact Nat.le_of_succ_le_succ (brief _ _ (.more polled polls))
      obtain ⟨n, moments, fate, record, u, course⟩ := ih later (acts k t).2 (k + 1)
        (measured.pass (goes.passes k)) calm' brief'
      have whole := HookCourse.waited polled waits course
      rw [← window_succ] at whole
      exact ⟨n + 1, _, _, _, _, whole⟩

/-- A queue comes to its end if the limit of its hooks does, or if they do not wait for ever. -/
theorem exists_ended_queue [BEq W] (host : String) (sound : stage.Sound h theirs)
    (goes : stage.Goes h theirs acts) (positive : .zero < timeout) (queue : List (Hook H)) (s : σ)
    (k : Nat) (calm : ∀ hook ∈ queue, stage.NeverPanics (stage.start hook))
    (ends : ∀ hook ∈ queue, timeout.seconds < 9223372036854775808 ∨
      ∃ n, stage.WaitsAtMost (stage.start hook) n)
    (steady : stage.Steady h theirs offered s) :
    ∃ n accounts records t, QueueCourse stage.toStage host timeout queue s (window acts k n) accounts
      records none t [] := by
  induction queue generalizing s k with
  | nil => exact ⟨0, [], [], s, .nothing⟩
  | cons hook queue ih =>
    have ready := steady.ready positive hook
    have mine := calm hook List.mem_cons_self
    obtain ⟨n, moments, fate, record, t, first⟩ : ∃ n moments fate record t,
        HookCourse stage.toStage host timeout (stage.launch timeout hook s) s (window acts k n)
          moments fate (.ok record) t [] := by
      rcases ends hook List.mem_cons_self with short | ⟨n, brief⟩
      · obtain ⟨i, onward⟩ := goes.onward k
        have limited : (stage.launch timeout hook s).limit.map Pause.due =
            some ((stage.timer.get s).now + timeout.toMillisUp) := by
          unfold Stage.launch Timer.limit
          rw [if_pos short]
          rfl
        exact exists_ended_hook host timeout sound goes timeout.toMillisUp i _ s k ready mine
          limited (Nat.le_refl _) onward
      · exact exists_ended_hook_of_waitsAtMost host timeout sound goes n _ s k ready mine brief
    have passes : ∀ act ∈ window acts k n, stage.Passes h theirs act := by
      intro act hact
      obtain ⟨m, -, rfl⟩ := List.mem_map.mp hact
      exact goes.passes m
    obtain ⟨told, -⟩ := first.told sound passes ready
    obtain ⟨m, accounts, records, u, others⟩ :=
      ih t (k + n) (fun x hx => calm x (List.mem_cons_of_mem _ hx))
        (fun x hx => ends x (List.mem_cons_of_mem _ hx)) told.steady
    have whole := QueueCourse.next (first.append (window acts (k + n) m)) others
    rw [window_append] at whole
    exact ⟨n + m, _, _, _, whole⟩

end HostBench
