/-
  Programs that are made of others in sequence. What a host does, and what is done with a provider or a
  clock at a place, consists of looking at places, putting something there, and calls of what lies
  around. So a kind of programs that holds what does nothing and is closed under sequence
  (`ProgramKind`) holds all of these, if it holds the calls that they are made of: resolutions and moves
  of a clock (`has_resolve`, `has_advanceAt`), shutdowns (`Stage.Composed.has_pollShutdown`), disposals
  and drops (`has_dispose`, `has_pollDisposal`, `has_drop`).
-/
import HostBench.Clock
import HostBench.Host

namespace HostBench

variable {σ H ρ V F W α β : Type}

/-- A kind of programs that holds what does nothing, and what is done one after the other by programs
of the kind. -/
structure ProgramKind (σ : Type) where
  Has : {α : Type} → StateM σ α → Prop
  pure : ∀ {α : Type} (a : α), Has (Pure.pure a : StateM σ α)
  bind : ∀ {α β : Type} {m : StateM σ α} {k : α → StateM σ β},
    Has m → (∀ a, Has (k a)) → Has (m >>= k)

/-- To look at a place, and to put something there, is of a kind. -/
structure Place.Open (kind : ProgramKind σ) (place : Place σ α) : Prop where
  read : kind.Has place.read
  write : ∀ a, kind.Has (place.write a)

/-- All that the hooks of a shutdown do, and what is done with the timer, is of a kind. -/
structure Stage.Composed (kind : ProgramKind σ) (stage : Stage σ H ρ W) : Prop where
  timer : stage.timer.Open kind
  report : ∀ e, kind.Has (stage.report e)
  poll : ∀ r, kind.Has (stage.poll r)
  abandon : ∀ r, kind.Has (stage.abandon r)

/-- All that the stage of a host calls is of a kind, where the lifetime and the provider of the host
are kept. -/
structure HostStage.Composed (kind : ProgramKind σ) (stage : HostStage σ H ρ V F W)
    (lifetime provider : Nat) : Prop extends Stage.Composed kind stage.toStage where
  lifetime : (stage.lifetime lifetime).Open kind
  provider : (stage.provider provider).Open kind
  wake : ∀ w, kind.Has (stage.wake w)
  discard : kind.Has stage.discard

/-- All that the hooks of a host do is of a kind, and so are the end of its lifetime and the release of
its services. -/
structure HostStage.Closing (kind : ProgramKind σ) (stage : HostStage σ H ρ V F W) (h : Host) :
    Prop extends Stage.Composed kind stage.toStage where
  stops : kind.Has (h.markStopped stage)
  releases : kind.Has (h.release stage)

variable {kind : ProgramKind σ}

/-! ## Lists, providers and clocks -/

theorem has_forM {f : α → StateM σ PUnit} (each : ∀ a, kind.Has (f a)) (l : List α) :
    kind.Has (l.forM f) := by
  induction l with
  | nil => exact kind.pure _
  | cons a l ih => exact kind.bind (each a) fun _ => ih

theorem has_resolve {place : Place σ (Provider V F)} (at_place : place.Open kind)
    {make : F → StateM σ (Except ResolveError V)}
    {created : Capability → ServiceLifetime → StateM σ Unit} (makes : ∀ f, kind.Has (make f))
    (tells : ∀ key lifetime, kind.Has (created key lifetime)) (key : Capability) :
    kind.Has (Provider.resolve place make created key) := by
  refine kind.bind at_place.read fun p => ?_
  cases p.lookup key with
  | found v => exact kind.pure _
  | refused e => exact kind.pure _
  | toMake lifetime f =>
    refine kind.bind (makes f) fun result => ?_
    cases result with
    | error e => exact kind.pure _
    | ok v =>
      refine kind.bind (tells key lifetime) fun _ => ?_
      by_cases transient : lifetime = .transient
      · rw [if_pos transient]
        exact kind.pure _
      · rw [if_neg transient]
        refine kind.bind at_place.read fun q => ?_
        cases q.keep key v with
        | error e => exact kind.pure _
        | ok answer => exact kind.bind (at_place.write answer.1) fun _ => kind.pure _

theorem has_advanceAt {place : Place σ (FakeClock W)} (at_place : place.Open kind)
    {report : Nat → StateM σ Unit} {wake : W → StateM σ Unit} (reports : ∀ n, kind.Has (report n))
    (wakes : ∀ w, kind.Has (wake w)) (delta : Duration) :
    kind.Has (FakeClock.advanceAt place report wake delta) := by
  unfold FakeClock.advanceAt
  cases delta.isZero with
  | true => exact kind.pure _
  | false =>
    exact kind.bind at_place.read fun c => kind.bind (at_place.write _) fun _ =>
      kind.bind (reports _) fun _ => has_forM wakes _

/-! ## Shutdowns -/

namespace Stage.Composed

variable {stage : Stage σ H ρ W}

theorem has_now (composed : stage.Composed kind) : kind.Has stage.now :=
  kind.bind composed.timer.read fun _ => kind.pure _

theorem has_lift (composed : stage.Composed kind) (limit : Option Pause) :
    kind.Has (stage.lift limit) := by
  cases limit with
  | none => exact kind.pure _
  | some p => exact kind.bind composed.timer.read fun _ => composed.timer.write _

theorem has_abandonShutdown (composed : stage.Composed kind) (s : Shutdown H ρ) :
    kind.Has (s.abandon stage) := by
  unfold Shutdown.abandon
  cases s.running with
  | none => exact kind.pure _
  | some h => exact kind.bind (composed.has_lift _) fun _ => composed.abandon _

variable [BEq W]

theorem has_isUp (composed : stage.Composed kind) (fresh : Bool) (limit : Option Pause) :
    kind.Has (stage.isUp fresh limit) :=
  kind.bind composed.timer.read fun _ => kind.bind (composed.timer.write _) fun _ => kind.pure _

theorem has_pollHook (composed : stage.Composed kind) (host : String) (timeout : Duration)
    (h : RunningHook ρ) : kind.Has (Shutdown.pollHook stage host timeout h) := by
  refine kind.bind composed.timer.read fun _ => kind.bind (composed.poll _) fun progress => ?_
  cases progress with
  | panicked message => exact kind.bind (composed.has_lift _) fun _ => kind.pure _
  | finished result =>
    refine kind.bind (composed.has_lift _) fun _ => kind.bind composed.has_now fun _ => ?_
    cases result with
    | ok u => exact kind.pure _
    | error e => exact kind.bind (composed.report _) fun _ => kind.pure _
  | waiting r =>
    refine kind.bind (composed.has_isUp _ _) fun ⟨limit, up⟩ => ?_
    cases up with
    | true =>
      exact kind.bind (composed.abandon r) fun _ => kind.bind (composed.report _) fun _ =>
        kind.bind composed.has_now fun _ => kind.pure _
    | false => exact kind.pure _

theorem has_startNext (composed : stage.Composed kind) (host : String) (timeout : Duration)
    (queue : List (Hook H)) (records : List ShutdownRecord) :
    kind.Has (Shutdown.startNext stage host timeout queue records) := by
  induction queue generalizing records with
  | nil => exact kind.pure _
  | cons hook queue ih =>
    refine kind.bind composed.timer.read fun _ =>
      kind.bind (composed.has_pollHook host timeout _) fun step => ?_
    cases step with
    | waiting h => exact kind.pure _
    | done r => exact ih _
    | panicked message => exact kind.pure _

theorem has_pollShutdown (composed : stage.Composed kind) (s : Shutdown H ρ) :
    kind.Has (s.poll stage) := by
  obtain ⟨host, timeout, running, queue, records⟩ := s
  cases running with
  | none => exact composed.has_startNext host timeout queue records
  | some h =>
    refine kind.bind (composed.has_pollHook host timeout h) fun step => ?_
    cases step with
    | waiting h => exact kind.pure _
    | done r => exact composed.has_startNext host timeout queue _
    | panicked message => exact kind.pure _

end Stage.Composed

/-! ## Hosts -/

namespace Host

variable {stage : HostStage σ H ρ V F W} {h : Host}

theorem has_markStopped (composed : stage.Composed kind h.lifetime h.provider) :
    kind.Has (h.markStopped stage) :=
  kind.bind composed.lifetime.read fun _ => kind.bind (composed.lifetime.write _) fun _ =>
    has_forM composed.wake _

theorem has_release (composed : stage.Composed kind h.lifetime h.provider) :
    kind.Has (h.release stage) :=
  kind.bind composed.provider.read fun _ => kind.bind (composed.provider.write _) fun _ =>
    kind.bind composed.discard fun _ => kind.pure _

theorem closing (composed : stage.Composed kind h.lifetime h.provider) : stage.Closing kind h :=
  ⟨composed.toComposed, has_markStopped composed, has_release composed⟩

theorem has_finish (closing : stage.Closing kind h) (records : List ShutdownRecord) :
    kind.Has (h.finish stage records) :=
  kind.bind closing.stops fun _ => kind.bind closing.releases fun _ =>
    kind.bind (closing.report _) fun _ => kind.pure _

theorem has_drop (closing : stage.Closing kind h) : kind.Has (h.drop stage) := by
  unfold drop
  by_cases stopped : h.state = .stopped
  · rw [if_pos stopped]
    exact kind.pure _
  · rw [if_neg stopped]
    exact kind.bind (closing.report _) fun _ => kind.bind closing.stops fun _ =>
      kind.bind closing.releases fun _ => kind.pure _

theorem has_cancelDisposal (composed : Stage.Composed kind stage.toStage) (d : Disposal H ρ) :
    kind.Has (cancelDisposal stage d) :=
  composed.has_abandonShutdown d.shutdown

variable [BEq W]

theorem has_pollDisposal {d : Disposal H ρ} (closing : stage.Closing kind d.host) :
    kind.Has (pollDisposal stage d) := by
  refine kind.bind (closing.has_pollShutdown d.shutdown) fun step => ?_
  cases step with
  | waiting s => exact kind.pure _
  | panicked message => exact kind.pure _
  | done records => exact kind.bind (has_finish closing records) fun _ => kind.pure _

theorem has_dispose (composed : stage.Composed kind h.lifetime h.provider) :
    kind.Has (h.dispose stage) := by
  unfold dispose
  cases h.report with
  | some report => exact kind.bind (composed.report _) fun _ => kind.pure _
  | none =>
    exact kind.bind composed.lifetime.read fun _ => kind.bind (composed.lifetime.write _) fun _ =>
      kind.bind (has_forM composed.wake _) fun _ => kind.bind (composed.report _) fun _ =>
        has_pollDisposal (closing composed)

end Host

end HostBench
