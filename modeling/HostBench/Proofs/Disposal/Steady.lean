/-
  What does not change while the hooks of a host run. The phase is stopping and the provider still
  offers what it did (`HostStage.Steady`), whatever the hooks do and whatever happens between their
  polls. When a running hook is polled, its time is up just if the point at which its limit ends is
  reached (`HostStage.Ready`, `Ready.isUp`).
-/
import HostBench.Proofs.Disposal.Limits

namespace HostBench

variable {σ H ρ V F W : Type} {stage : HostStage σ H ρ V F W} {h : Host} {theirs : σ → Nat → Prop}
  {offered : Provider V F} {s s' : σ} {p : Pause}

/-- The state of a host whose hooks run, and whose provider offered what `offered` does. -/
structure HostStage.Steady (stage : HostStage σ H ρ V F W) (h : Host) (theirs : σ → Nat → Prop)
    (offered : Provider V F) (s : σ) : Prop where
  phase : ((stage.lifetime h.lifetime).get s).phase = .stopping
  offers : offered.StillOffers ((stage.provider h.provider).get s)
  tidy : (stage.timer.get s).Tidy
  theirs_lt : ∀ id, theirs s id → id < (stage.timer.get s).next

namespace HostStage

theorem Steady.moves (steady : stage.Steady h theirs offered s) (m : stage.Moves h theirs s s') :
    stage.Steady h theirs offered s' where
  phase := by rw [Lifetime.Uses.phase_eq m.lifetime, steady.phase]
  offers := steady.offers.trans (m.provider.stillOffers steady.offers.live)
  tidy := m.timer.tidy steady.tidy
  theirs_lt id owned := by
    rcases m.timer.owned id owned with old | new
    · exact Nat.lt_of_lt_of_le (steady.theirs_lt id old) m.timer.next_le
    · exact new.2

theorem Steady.set_timer (apart : stage.Apart h theirs) (steady : stage.Steady h theirs offered s)
    {t : Timer W} (tidy : t.Tidy) (next_le : (stage.timer.get s).next ≤ t.next) :
    stage.Steady h theirs offered (stage.timer.set t s) where
  phase := by rw [apart.lifetime_timer]; exact steady.phase
  offers := by rw [apart.provider_timer]; exact steady.offers
  tidy := by rw [apart.timer_set]; exact tidy
  theirs_lt id owned := by
    rw [apart.theirs_timer] at owned
    rw [apart.timer_set]
    exact Nat.lt_of_lt_of_le (steady.theirs_lt id owned) next_le

/-- To take back a limit disturbs nobody. -/
theorem Steady.lift (apart : stage.Apart h theirs) (steady : stage.Steady h theirs offered s)
    (limit : Option Pause) :
    stage.Steady h theirs offered (stage.lift limit s).2 ∧
      (stage.timer.get (stage.lift limit s).2).now = (stage.timer.get s).now := by
  cases limit with
  | none => exact ⟨steady, rfl⟩
  | some p =>
    have lifted : (stage.lift (some p) s).2 = stage.timer.set ((stage.timer.get s).cancel p) s := rfl
    obtain ⟨now_eq, next_eq, fewer⟩ := Timer.dues_cancel (stage.timer.get s) p
    rw [lifted, apart.timer_set]
    refine ⟨steady.set_timer apart ?_ (Nat.le_of_eq next_eq.symm), now_eq⟩
    intro x hx
    rw [next_eq]
    exact steady.tidy x (fewer hx)

/-- A host whose hooks run refuses new ones. -/
theorem Steady.refuses (steady : stage.Steady h theirs offered s) (hook : Hook H) :
    ((stage.lifetime h.lifetime).get s).register hook = .error ⟨"register_on_stop"⟩ :=
  Lifetime.register_of_ne_running (by rw [steady.phase]; decide) hook

/-! ## The running hook -/

/-- The running hook may be polled. Either it has just been started, or the alarms that are due have
gone off and the turn has a budget. -/
structure Ready (stage : HostStage σ H ρ V F W) (h : Host) (theirs : σ → Nat → Prop)
    (offered : Provider V F) (limit : Option Pause) (s : σ) : Prop where
  steady : stage.Steady h theirs offered s
  armed : ∀ p, limit = some p → Timer.Armed (theirs s) (stage.timer.get s) p
  timely : (∀ p, limit = some p → p.alarm = none ∧ (stage.timer.get s).now < p.due) ∨
    (∀ x ∈ (stage.timer.get s).dues, (stage.timer.get s).now < x.2) ∧
      (stage.timer.get s).exhausted = false

/-- What the hook learns about its limit when it has been polled and waits. -/
structure Measured (stage : HostStage σ H ρ V F W) (h : Host) (theirs : σ → Nat → Prop)
    (offered : Provider V F) (limit : Option Pause) (s : σ) (limit' : Option Pause) (up : Bool)
    (t : σ) : Prop where
  steady : stage.Steady h theirs offered t
  now_eq : (stage.timer.get t).now = (stage.timer.get s).now
  armed : ∀ p, limit' = some p → Timer.Armed (theirs t) (stage.timer.get t) p
  deadline_eq : limit'.map Pause.due = limit.map Pause.due
  up_iff : up = true ↔ ∃ p, limit = some p ∧ p.due ≤ (stage.timer.get s).now

/-- A limit that is found not to be up ends later. -/
theorem Ready.lt_due (ready : stage.Ready h theirs offered (some p) s)
    (m : stage.MovesAtOnce h theirs s s')
    (on : (stage.timer.get s).exhausted = false →
      ((stage.timer.get s').look p stage.waker).2.2 = false) :
    (stage.timer.get s').now < p.due := by
  have armed := m.timer.armed (Nat.le_of_eq m.now_eq.symm) (ready.armed p rfl)
  rcases ready.timely with started | ⟨rung, budget⟩
  · rw [m.now_eq]
    exact (started p rfl).2
  · refine Timer.lt_due_of_look armed ?_ (on budget)
    intro id set due listed
    rw [m.now_eq]
    rcases m.timer.known _ listed with old | new
    · exact rung _ old
    · exact absurd ((ready.armed p rfl).lt_next id set) (Nat.not_lt.mpr new.1)

theorem Ready.isUp [BEq W] (sound : stage.Sound h theirs) {limit : Option Pause}
    (ready : stage.Ready h theirs offered limit s) (m : stage.MovesAtOnce h theirs s s') :
    ∃ limit' up t, stage.isUp (!(stage.timer.get s).exhausted) limit s' = ((limit', up), t) ∧
      stage.Measured h theirs offered limit s limit' up t := by
  have apart := sound.toApart
  have steady := ready.steady.moves m.toMoves
  have asks : ∀ fresh, stage.isUp fresh limit s' =
      (((stage.timer.get s').pollLimit fresh limit stage.waker).2,
        stage.timer.set ((stage.timer.get s').pollLimit fresh limit stage.waker).1 s') := fun _ => rfl
  rw [asks]
  cases limit with
  | none =>
    refine ⟨none, false, _, rfl, ?_, ?_, by simp, rfl, by simp⟩
    · exact steady.set_timer apart steady.tidy (Nat.le_refl _)
    · rw [apart.timer_set]
      exact m.now_eq
  | some p =>
    have armed := m.timer.armed (Nat.le_of_eq m.now_eq.symm) (ready.armed p rfl)
    obtain ⟨t', p', up, asked, after, of_up, of_fresh⟩ :=
      Timer.pollLimit_asked (stage.timer.get s') (!(stage.timer.get s).exhausted) p stage.waker
    have used : Timer.Use (theirs s') _ (stage.timer.get s') t' := after.use
    rw [asked]
    refine ⟨some p', up, _, rfl, ?_, ?_, ?_, ?_, ?_⟩
    · exact steady.set_timer apart (used.tidy steady.tidy) used.next_le
    · rw [apart.timer_set, after.now_eq]
      exact m.now_eq
    · intro q hq
      cases hq
      rw [apart.timer_set, apart.theirs_timer]
      exact after.armed steady.tidy steady.theirs_lt armed
    · rw [Option.map_some, Option.map_some, after.due_eq]
    · rw [← m.now_eq]
      constructor
      · intro is_up
        exact ⟨p, rfl, Timer.due_le_of_look armed (of_up is_up)⟩
      · rintro ⟨q, hq, reached⟩
        cases hq
        cases up with
        | true => rfl
        | false =>
          have early := ready.lt_due m fun budget => of_fresh (by rw [budget]; rfl)
          exact absurd reached (Nat.not_le.mpr early)

end HostStage

/-- The timer has reached a point, if there is one. -/
def Stage.Expired (stage : Stage σ H ρ W) (deadline : Option Millis) (s : σ) : Prop :=
  ∃ due, deadline = some due ∧ due ≤ (stage.timer.get s).now

namespace HostStage

variable {timeout : Duration} {host : String} {running later : RunningHook ρ}
  {act : StateM σ Unit} {record : ShutdownRecord} {r : ρ} {t : σ}

theorem expired_iff {limit : Option Pause} :
    stage.Expired (limit.map Pause.due) s ↔
      ∃ p, limit = some p ∧ p.due ≤ (stage.timer.get s).now := by
  unfold Stage.Expired
  cases limit <;> simp

/-- A hook that waits on has time left. -/
theorem Ready.of_waiting [BEq W] (sound : stage.Sound h theirs)
    (ready : stage.Ready h theirs offered running.limit s)
    (polled : stage.poll running.routine s = (.waiting r, s'))
    (waits : Shutdown.pollHook stage.toStage host timeout running s = (.waiting later, t)) :
    stage.Measured h theirs offered running.limit s later.limit false t ∧
      ¬ stage.Expired (running.limit.map Pause.due) s := by
  have m := sound.poll running.routine s
  rw [polled] at m
  obtain ⟨limit, up, u, asked, measured⟩ := ready.isUp sound m
  rw [(Shutdown.of_pollHook_waiting polled waits).2.2.2] at asked
  cases asked
  refine ⟨measured, fun expired => ?_⟩
  have up := measured.up_iff.mpr (expired_iff.mp expired)
  cases up

/-- When others have acted, a hook that waits may be polled again. -/
theorem Measured.pass {limit limit' : Option Pause} (measured :
    stage.Measured h theirs offered limit s limit' false t) (passes : stage.Passes h theirs act) :
    stage.Ready h theirs offered limit' (act t).2 where
  steady := measured.steady.moves (passes.moves t)
  armed p set := (passes.moves t).timer.armed (passes.now_le t) (measured.armed p set)
  timely := .inr ⟨passes.rung t, passes.budget t⟩

/-- A hook is abandoned only when its time is up. -/
theorem Ready.of_timedOut [BEq W] (sound : stage.Sound h theirs)
    (ready : stage.Ready h theirs offered running.limit s)
    (polled : stage.poll running.routine s = (.waiting r, s'))
    (settled : Shutdown.pollHook stage.toStage host timeout running s = (.done record, t)) :
    stage.Steady h theirs offered t ∧ (stage.timer.get t).now = (stage.timer.get s).now ∧
      stage.Expired (running.limit.map Pause.due) s := by
  have m := sound.poll running.routine s
  rw [polled] at m
  obtain ⟨limit, up, u, asked, measured⟩ := ready.isUp sound m
  obtain ⟨limit', u', asked', rfl, -⟩ := Shutdown.of_pollHook_done polled settled
  rw [asked'] at asked
  cases asked
  have abandoned := sound.abandon r u
  have reported := sound.report (.hookTimedOut host running.label timeout) (stage.abandon r u).2
  refine ⟨(measured.steady.moves abandoned.toMoves).moves reported.toMoves, ?_,
    expired_iff.mpr (measured.up_iff.mp rfl)⟩
  exact reported.now_eq.trans (abandoned.now_eq.trans measured.now_eq)

/-- A hook that has run to its end disturbs nobody. -/
theorem Ready.of_finished [BEq W] (sound : stage.Sound h theirs)
    (ready : stage.Ready h theirs offered running.limit s) {result : Except HookError Unit}
    (polled : stage.poll running.routine s = (.finished result, s'))
    (settled : Shutdown.pollHook stage.toStage host timeout running s = (.done record, t)) :
    stage.Steady h theirs offered t ∧ (stage.timer.get t).now = (stage.timer.get s).now ∧
      record = ⟨running.label, .ofResult result,
        Millis.since (stage.timer.get t).now running.since⟩ := by
  have m := sound.poll running.routine s
  rw [polled] at m
  rw [Shutdown.pollHook_of_finished polled] at settled
  cases settled
  obtain ⟨steady, now_eq⟩ := (ready.steady.moves m.toMoves).lift sound.toApart running.limit
  cases result with
  | ok u => exact ⟨steady, now_eq.trans m.now_eq, rfl⟩
  | error e =>
    have reported := sound.report (.hookFailed host running.label e.message)
      (stage.lift running.limit s').2
    refine ⟨steady.moves reported.toMoves, reported.now_eq.trans (now_eq.trans m.now_eq), ?_⟩
    rw [Shutdown.settle, reported.now_eq]

end HostStage

end HostBench
