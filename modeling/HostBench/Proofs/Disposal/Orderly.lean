/-
  One disposal from its beginning to its end. The lifetime begins to stop and hands over its hooks
  (`steady_enterStopping`), the hooks run, and only then does the lifetime stop for good and are the
  services released (`finish_orderly`). `disposal_orderly` puts these together with the accounts of
  the hooks, and says when a disposal returns at all.
-/
import HostBench.Proofs.Disposal.Keeping
import HostBench.Proofs.Disposal.Rehearsal

namespace HostBench

section
variable {σ H ρ V F W : Type} {stage : HostStage σ H ρ V F W} {h : Host} {theirs : σ → Nat → Prop}
  {offered : Provider V F} {s t : σ}

/-! ## The beginning -/

/-- Whoever is woken keeps what others have to keep. -/
theorem wakes {P : σ → Prop} (sound : stage.Sound h theirs)
    (keeps : ∀ s s', stage.MovesAtOnce h theirs s s' → P s → P s') (woken : List W) :
    Keeps P (woken.forM stage.wake) :=
  keeps_forM (fun w s => keeps s _ (sound.wake w s)) woken

/-- A host that begins to stop hands over its hooks, and serves on. -/
theorem steady_enterStopping (sound : stage.Sound h theirs)
    (running : ((stage.lifetime h.lifetime).get s).phase = .running)
    (live : ((stage.provider h.provider).get s).isReleased = false)
    (tidy : (stage.timer.get s).Tidy) (theirs_lt : ∀ id, theirs s id → id < (stage.timer.get s).next) :
    (h.enterStopping stage s).1 = ((stage.lifetime h.lifetime).get s).hooks ∧
      stage.Steady h theirs ((stage.provider h.provider).get s) (h.enterStopping stage s).2 ∧
      (stage.timer.get (h.enterStopping stage s).2).now = (stage.timer.get s).now := by
  have apart := sound.toApart
  obtain ⟨phase, -, hooks⟩ := Lifetime.beginStopping_of_running running
  have keeps : ∀ u v, stage.MovesAtOnce h theirs u v →
      stage.Steady h theirs ((stage.provider h.provider).get s) u ∧
        (stage.timer.get u).now = (stage.timer.get s).now →
      stage.Steady h theirs ((stage.provider h.provider).get s) v ∧
        (stage.timer.get v).now = (stage.timer.get s).now :=
    fun u v m hu => ⟨hu.1.moves m.toMoves, m.now_eq.trans hu.2⟩
  refine ⟨hooks, keeps _ _ (sound.report _ _) (wakes sound keeps _ _ ⟨⟨?_, ?_, ?_, ?_⟩, ?_⟩)⟩
  · rw [apart.lifetime_set]
    exact phase
  · rw [apart.provider_lifetime]
    exact .refl live
  · rw [apart.timer_lifetime]
    exact tidy
  · rw [apart.timer_lifetime, apart.theirs_lifetime]
    exact theirs_lt
  · rw [apart.timer_lifetime]

/-! ## The end -/

theorem Provider.Uses.isReleased {p p' : Provider V F} (u : p.Uses p') (gone : p.isReleased = true) :
    p'.isReleased = true := by
  induction u with
  | refl => exact gone
  | @tail q _ _ last ih =>
    cases last with
    | keep live _ _ =>
      have nothing : q.services.isNone = true := ih
      rw [live] at nothing
      cases nothing

/-- The end of a disposal, from the state in which the last hook left the host. -/
structure Host.Finished (stage : HostStage σ H ρ V F W) (h : Host) (offered : Provider V F) (s : σ)
    (h' : Host) (report : ShutdownReport) (s' : σ) : Prop where
  /-- When the lifetime has stopped for good, the provider still offers all that it did. -/
  stopped : ((stage.lifetime h.lifetime).get (h.markStopped stage s).2).phase = .stopped ∧
    offered.StillOffers ((stage.provider h.provider).get (h.markStopped stage s).2)
  /-- Then the services are released. -/
  released : ((stage.provider h.provider).get
    (h.release stage (h.markStopped stage s).2).2).isReleased = true
  /-- Nothing but a report to those who listen is left to do. -/
  ends : s' = (stage.report (.disposed h.settings.hostName report.released report.isClean)
    (h.release stage (h.markStopped stage s).2).2).2
  final : ((stage.lifetime h.lifetime).get s').phase = .stopped ∧
    ((stage.provider h.provider).get s').isReleased = true
  count : report.released = offered.size
  host : h' = { h with state := .stopped, report := some report }
  now_eq : (stage.timer.get s').now = (stage.timer.get s).now

theorem finish_orderly (sound : stage.Sound h theirs) (records : List ShutdownRecord)
    (steady : stage.Steady h theirs offered s) :
    h.Finished stage offered s (h.finish stage records s).1.1 (h.finish stage records s).1.2
      (h.finish stage records s).2 := by
  have apart := sound.toApart
  -- the state after the lifetime has stopped, and all that follows from there
  have stopped : ((stage.lifetime h.lifetime).get (h.markStopped stage s).2).phase = .stopped ∧
      offered.StillOffers ((stage.provider h.provider).get (h.markStopped stage s).2) ∧
      (stage.timer.get (h.markStopped stage s).2).now = (stage.timer.get s).now := by
    refine wakes (P := fun u => ((stage.lifetime h.lifetime).get u).phase = .stopped ∧
      offered.StillOffers ((stage.provider h.provider).get u) ∧
      (stage.timer.get u).now = (stage.timer.get s).now) sound ?_ _ _ ⟨?_, ?_, ?_⟩
    · rintro u v m ⟨phase, offers, now_eq⟩
      exact ⟨(Lifetime.Uses.phase_eq m.lifetime).trans phase,
        offers.trans (m.provider.stillOffers offers.live), m.now_eq.trans now_eq⟩
    · rw [apart.lifetime_set]
    · rw [apart.provider_lifetime]
      exact steady.offers
    · rw [apart.timer_lifetime]
  obtain ⟨phase, offers, now_eq⟩ := stopped
  have let_go := sound.discard
    ((stage.provider h.provider).set .released (h.markStopped stage s).2)
  have reported := sound.report (.disposed h.settings.hostName (h.finish stage records s).1.2.released
    (h.finish stage records s).1.2.isClean) (h.release stage (h.markStopped stage s).2).2
  have gone : ((stage.provider h.provider).get
      (h.release stage (h.markStopped stage s).2).2).isReleased = true := by
    refine let_go.provider.isReleased ?_
    rw [apart.provider_set]
    rfl
  have phase' : ((stage.lifetime h.lifetime).get
      (h.release stage (h.markStopped stage s).2).2).phase = .stopped := by
    refine (Lifetime.Uses.phase_eq let_go.lifetime).trans ?_
    rw [apart.lifetime_provider]
    exact phase
  have now_eq' : (stage.timer.get (h.release stage (h.markStopped stage s).2).2).now =
      (stage.timer.get s).now := by
    refine let_go.now_eq.trans ?_
    rw [apart.timer_provider]
    exact now_eq
  constructor
  case stopped => exact ⟨phase, offers⟩
  case released => exact gone
  case ends => rfl
  case final =>
    exact ⟨(Lifetime.Uses.phase_eq reported.lifetime).trans phase',
      reported.provider.isReleased gone⟩
  case count => exact offers.size
  case host => rfl
  case now_eq => exact reported.now_eq.trans now_eq'

/-! ## A whole disposal -/

/-- A host that runs and has not begun to stop. -/
structure HostStage.Fresh (stage : HostStage σ H ρ V F W) (h : Host) (theirs : σ → Nat → Prop)
    (s : σ) : Prop where
  unreported : h.report = none
  running : ((stage.lifetime h.lifetime).get s).phase = .running
  live : ((stage.provider h.provider).get s).isReleased = false
  tidy : (stage.timer.get s).Tidy
  theirs_lt : ∀ id, theirs s id → id < (stage.timer.get s).next

/-- A disposal that returns, hook by hook, from its beginning to its end. -/
structure Host.Orderly [BEq W] (stage : HostStage σ H ρ V F W) (h : Host) (s : σ)
    (acts : List (StateM σ Unit)) (h' : Host) (report : ShutdownReport) (s' : σ)
    (accounts : List (Account σ H)) (last : σ) : Prop where
  /-- The accounts are those of the course that the disposal takes. -/
  course : ∃ rest, QueueCourse stage.toStage h.settings.hostName h.settings.shutdownTimeout
    ((stage.lifetime h.lifetime).get s).hooks (h.enterStopping stage s).2 acts accounts
    report.records none last rest
  /-- All hooks are started, in the order of registration, -/
  hooks : accounts.map Account.hook = ((stage.lifetime h.lifetime).get s).hooks
  /-- each in the state in which the one before it has left everything. -/
  linked : Linked (h.enterStopping stage s).2 accounts last
  /-- Each has an orderly account, and one record. -/
  orderly : List.Forall₂
    (Account.Orderly stage h ((stage.provider h.provider).get s) h.settings.shutdownTimeout)
    accounts report.records
  labels : report.records.map ShutdownRecord.label =
    ((stage.lifetime h.lifetime).get s).hooks.map Hook.label
  /-- After the last hook the host is still stopping and serving. -/
  serving : stage.Serving h ((stage.provider h.provider).get s) last
  finished : h.Finished stage ((stage.provider h.provider).get s) last h' report s'
  elapsed : report.records.map ShutdownRecord.elapsed =
    accounts.map fun a => .ofMillis (a.span stage.toStage)
  /-- All the time that the disposal takes is taken by the hooks. -/
  time : (stage.timer.get s').now =
    (stage.timer.get s).now + (accounts.map (Account.span stage.toStage)).sum

theorem labels_of_orderly {timeout : Duration} {accounts : List (Account σ H)}
    {records : List ShutdownRecord}
    (orderly : List.Forall₂ (Account.Orderly stage h offered timeout) accounts records) :
    records.map ShutdownRecord.label = (accounts.map Account.hook).map Hook.label ∧
      records.map ShutdownRecord.elapsed = accounts.map (fun a => .ofMillis (a.span stage.toStage)) ∧
      ∀ a ∈ accounts, (stage.timer.get a.initial).now ≤ (stage.timer.get a.final).now := by
  induction orderly with
  | nil => exact ⟨rfl, rfl, fun a ha => absurd ha List.not_mem_nil⟩
  | @cons a record accounts records first _ ih =>
    obtain ⟨labels, elapsed, forward⟩ := ih
    refine ⟨?_, ?_, ?_⟩
    · rw [List.map_cons, List.map_cons, List.map_cons, labels, first.label]
    · rw [List.map_cons, List.map_cons, elapsed, first.elapsed]
      rfl
    · intro b hb
      rcases List.mem_cons.mp hb with rfl | hb
      · exact first.now_le
      · exact forward b hb

/-- The disposal of a host that runs, whatever its hooks do, as long as all others keep to what is
theirs. If it returns, every hook has run in its turn until it was ready or its time was up, on a host
that still served; then the host has stopped, and only then were its services released. And it does
return, if no hook panics, time goes on, and no hook waits for ever while its timeout leads past the
end of the time line. -/
theorem disposal_orderly [BEq W] (sound : stage.Sound h theirs) (fresh : stage.Fresh h theirs s)
    (positive : .zero < h.settings.shutdownTimeout) :
    (∀ acts h' report s', (∀ act ∈ acts, stage.Passes h theirs act) →
      h.attempt stage acts s = (.returned h' report, s') →
        ∃ accounts last, h.Orderly stage s acts h' report s' accounts last) ∧
    ∀ acts, stage.Goes h theirs acts →
      (∀ hook ∈ ((stage.lifetime h.lifetime).get s).hooks,
        stage.NeverPanics (stage.start hook)) →
      (∀ hook ∈ ((stage.lifetime h.lifetime).get s).hooks,
        h.settings.shutdownTimeout.seconds < 9223372036854775808 ∨
          ∃ n, stage.WaitsAtMost (stage.start hook) n) →
        ∃ n h' report s', h.attempt stage (window acts 0 n) s = (.returned h' report, s') := by
  obtain ⟨hooks, steady, now_eq⟩ :=
    steady_enterStopping sound fresh.running fresh.live fresh.tidy fresh.theirs_lt
  refine ⟨?_, ?_⟩
  · intro acts h' report s' passes returned
    obtain ⟨accounts, records, cut, last, rest, course, concluded⟩ :=
      exists_course stage fresh.unreported acts s
    rw [returned] at concluded
    cases cut with
    | some c => cases concluded
    | none =>
      cases concluded
      rw [hooks] at course
      obtain ⟨own, linked, orderly, steady'⟩ := course.orderly sound positive passes steady
      obtain ⟨labels, elapsed, forward⟩ := labels_of_orderly orderly
      have finished := finish_orderly sound records steady'
      refine ⟨accounts, last, ?_⟩
      exact {
        course := ⟨rest, course⟩
        hooks := own
        linked := linked
        orderly := orderly
        labels := by rw [← own]; exact labels
        serving := steady'.serving
        finished := finished
        elapsed := elapsed
        time := by rw [finished.now_eq, linked.sum_span forward, now_eq] }
  · intro acts goes calm ends
    obtain ⟨n, accounts, records, t, course⟩ := exists_ended_queue
      h.settings.hostName sound goes positive _ (h.enterStopping stage s).2 0 calm ends steady
    rw [← hooks] at course
    exact ⟨n, _, _, _, Host.attempt_of_course fresh.unreported course⟩

end

namespace Rehearsal

theorem fresh_four : stage.Fresh host theirs four where
  unreported := rfl
  running := rfl
  live := rfl
  tidy _ hx := absurd hx List.not_mem_nil
  theirs_lt _ owned := absurd owned List.not_mem_nil

/-- The four hooks of the rehearsal, with nine seconds to pass. -/
theorem four_orderly :
    (∃ h' report s' accounts last,
      report.records.map ShutdownRecord.status =
        [.completed, .failed ⟨"no"⟩, .timedOut, .completed] ∧
      host.Orderly stage four (List.replicate 9 second) h' report s' accounts last) ∧
    ∃ n h' report s', host.attempt stage (window (fun _ => second) 0 n) four =
      (.returned h' report, s') := by
  have positive : Duration.zero < host.settings.shutdownTimeout := by decide +kernel
  have short : host.settings.shutdownTimeout.seconds < 9223372036854775808 := by decide +kernel
  obtain ⟨orderly, returns⟩ := disposal_orderly (sound host) fresh_four positive
  refine ⟨?_, returns _ (goes_second host) calm_four fun _ _ => .inl short⟩
  have passes : ∀ act ∈ List.replicate 9 second, stage.Passes host theirs act := by
    intro act hact
    rw [List.eq_of_mem_replicate hact]
    exact passes_second host
  have reported : ((host.attempt stage (List.replicate 9 second) four).1.report?.map
      fun report => report.records.map ShutdownRecord.status) =
        some [.completed, .failed ⟨"no"⟩, .timedOut, .completed] := by decide +kernel
  obtain ⟨report, found, statuses⟩ := Option.map_eq_some_iff.mp reported
  obtain ⟨h', s', returned⟩ := Ending.exists_returned found
  obtain ⟨accounts, last, told⟩ := orderly _ h' report s' passes returned
  exact ⟨h', report, s', accounts, last, statuses, told⟩

end Rehearsal

end HostBench
