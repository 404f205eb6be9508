/-
  Hosts that are watched. A watched state keeps on record every state that was passed through up to
  it. On a watched stage all that is done to the state is done as on the stage itself, and each state
  that comes of it is put on record (`HostStage.watched`), so the record shows what lies between the
  beginning of an operation and its end.

  Watching makes no difference: with a map from states to states along which two stages do the same
  (`HostStage.Along`), attempts, drops and resolutions do the same as well (`mirrors_attempt`,
  `mirrors_drop`, `mirrors_resolve`). And whatever holds in the eras of a host holds in them when it is
  watched, with one of them for every state on record (`HostStage.Unfolds.watched`).
-/
import HostBench.Proofs.Disposal.Keeping

namespace HostBench

variable {σ σ' H ρ V F W α β : Type}

/-! ## Programs that mirror each other -/

/-- A program gives the answer that another gives in the image of the state, and the images of the
states after that are the same. -/
def Mirrors (f : σ' → σ) (m' : StateM σ' α) (m : StateM σ α) : Prop :=
  ∀ s, (m' s).1 = (m (f s)).1 ∧ f (m' s).2 = (m (f s)).2

/-- Two states keep a component at places that correspond. -/
structure Place.Along (f : σ' → σ) (p' : Place σ' α) (p : Place σ α) : Prop where
  get : ∀ s, p'.get s = p.get (f s)
  set : ∀ a s, f (p'.set a s) = p.set a (f s)

section
variable {f : σ' → σ}

theorem mirrors_pure (a : α) : Mirrors f (pure a) (pure a) := fun _ => ⟨rfl, rfl⟩

theorem Mirrors.bind {m' : StateM σ' α} {m : StateM σ α} {k' : α → StateM σ' β} {k : α → StateM σ β}
    (first : Mirrors f m' m) (next : ∀ a, Mirrors f (k' a) (k a)) :
    Mirrors f (m' >>= k') (m >>= k) := by
  intro s
  obtain ⟨answer, after⟩ := first s
  show (k' (m' s).1 (m' s).2).1 = (k (m (f s)).1 (m (f s)).2).1 ∧
    f (k' (m' s).1 (m' s).2).2 = (k (m (f s)).1 (m (f s)).2).2
  rw [← answer, ← after]
  exact next _ _

theorem Place.Along.read {p' : Place σ' α} {p : Place σ α} (along : p'.Along f p) :
    Mirrors f p'.read p.read := fun s => ⟨along.get s, rfl⟩

theorem Place.Along.write {p' : Place σ' α} {p : Place σ α} (along : p'.Along f p) (a : α) :
    Mirrors f (p'.write a) (p.write a) := fun s => ⟨rfl, along.set a s⟩

theorem mirrors_forM {each' : α → StateM σ' PUnit} {each : α → StateM σ PUnit}
    (mirrors : ∀ a, Mirrors f (each' a) (each a)) (l : List α) :
    Mirrors f (l.forM each') (l.forM each) := by
  induction l with
  | nil => exact mirrors_pure _
  | cons a l ih => exact (mirrors a).bind fun _ => ih

/-- Resolutions mirror each other where the factories do. -/
theorem mirrors_resolve {p' : Place σ' (Provider V F)} {p : Place σ (Provider V F)}
    (along : p'.Along f p) {make' : F → StateM σ' (Except ResolveError V)}
    {make : F → StateM σ (Except ResolveError V)} (makes : ∀ x, Mirrors f (make' x) (make x))
    {created' : Capability → ServiceLifetime → StateM σ' Unit}
    {created : Capability → ServiceLifetime → StateM σ Unit}
    (tells : ∀ key lifetime, Mirrors f (created' key lifetime) (created key lifetime))
    (key : Capability) :
    Mirrors f (Provider.resolve p' make' created' key) (Provider.resolve p make created key) := by
  refine along.read.bind fun q => ?_
  cases q.lookup key with
  | found v => exact mirrors_pure _
  | refused e => exact mirrors_pure _
  | toMake lifetime x =>
    refine (makes x).bind fun result => ?_
    cases result with
    | error e => exact mirrors_pure _
    | ok v =>
      refine (tells key lifetime).bind fun _ => ?_
      by_cases transient : lifetime = .transient
      · rw [if_pos transient, if_pos transient]
        exact mirrors_pure _
      · rw [if_neg transient, if_neg transient]
        refine along.read.bind fun q => ?_
        cases q.keep key v with
        | error e => exact mirrors_pure _
        | ok answer => exact (along.write answer.1).bind fun _ => mirrors_pure _

end

/-! ## Stages that mirror each other -/

/-- What a stage does, another one does in the images of its states. -/
structure Stage.Along (f : σ' → σ) (stage' : Stage σ' H ρ W) (stage : Stage σ H ρ W) : Prop where
  timer : stage'.timer.Along f stage.timer
  waker : stage'.waker = stage.waker
  report : ∀ e, Mirrors f (stage'.report e) (stage.report e)
  start : stage'.start = stage.start
  poll : ∀ r, Mirrors f (stage'.poll r) (stage.poll r)
  abandon : ∀ r, Mirrors f (stage'.abandon r) (stage.abandon r)

namespace Stage.Along

variable {f : σ' → σ} {stage' : Stage σ' H ρ W} {stage : Stage σ H ρ W}

theorem now (along : Stage.Along f stage' stage) : Mirrors f stage'.now stage.now :=
  along.timer.read.bind fun _ => mirrors_pure _

theorem lift (along : Stage.Along f stage' stage) (limit : Option Pause) :
    Mirrors f (stage'.lift limit) (stage.lift limit) := by
  cases limit with
  | none => exact mirrors_pure _
  | some p => exact along.timer.read.bind fun _ => along.timer.write _

theorem abandonShutdown (along : Stage.Along f stage' stage) (s : Shutdown H ρ) :
    Mirrors f (s.abandon stage') (s.abandon stage) := by
  unfold Shutdown.abandon
  cases s.running with
  | none => exact mirrors_pure _
  | some h => exact (along.lift _).bind fun _ => along.abandon _

variable [BEq W]

theorem isUp (along : Stage.Along f stage' stage) (fresh : Bool) (limit : Option Pause) :
    Mirrors f (stage'.isUp fresh limit) (stage.isUp fresh limit) := by
  unfold Stage.isUp
  rw [along.waker]
  exact along.timer.read.bind fun _ => (along.timer.write _).bind fun _ => mirrors_pure _

theorem pollHook (along : Stage.Along f stage' stage) (host : String) (timeout : Duration)
    (h : RunningHook ρ) :
    Mirrors f (Shutdown.pollHook stage' host timeout h) (Shutdown.pollHook stage host timeout h) := by
  refine along.timer.read.bind fun _ => (along.poll _).bind fun progress => ?_
  cases progress with
  | panicked message => exact (along.lift _).bind fun _ => mirrors_pure _
  | finished result =>
    refine (along.lift _).bind fun _ => along.now.bind fun _ => ?_
    cases result with
    | ok u => exact mirrors_pure _
    | error e => exact (along.report _).bind fun _ => mirrors_pure _
  | waiting r =>
    refine (along.isUp _ _).bind fun ⟨limit, up⟩ => ?_
    cases up with
    | true =>
      exact (along.abandon r).bind fun _ => (along.report _).bind fun _ =>
        along.now.bind fun _ => mirrors_pure _
    | false => exact mirrors_pure _

theorem startNext (along : Stage.Along f stage' stage) (host : String) (timeout : Duration)
    (queue : List (Hook H)) (records : List ShutdownRecord) :
    Mirrors f (Shutdown.startNext stage' host timeout queue records)
      (Shutdown.startNext stage host timeout queue records) := by
  induction queue generalizing records with
  | nil => exact mirrors_pure _
  | cons hook queue ih =>
    unfold Shutdown.startNext
    rw [along.start]
    refine along.timer.read.bind fun _ => (along.pollHook host timeout _).bind fun step => ?_
    cases step with
    | waiting h => exact mirrors_pure _
    | done r => exact ih _
    | panicked message => exact mirrors_pure _

theorem pollShutdown (along : Stage.Along f stage' stage) (s : Shutdown H ρ) :
    Mirrors f (s.poll stage') (s.poll stage) := by
  obtain ⟨host, timeout, running, queue, records⟩ := s
  cases running with
  | none => exact along.startNext host timeout queue records
  | some h =>
    refine (along.pollHook host timeout h).bind fun step => ?_
    cases step with
    | waiting h => exact mirrors_pure _
    | done r => exact along.startNext host timeout queue _
    | panicked message => exact mirrors_pure _

end Stage.Along

/-- What the stage of a host does, another one does in the images of its states. -/
structure HostStage.Along (f : σ' → σ) (stage' : HostStage σ' H ρ V F W)
    (stage : HostStage σ H ρ V F W) : Prop extends Stage.Along f stage'.toStage stage.toStage where
  lifetime : ∀ i, (stage'.lifetime i).Along f (stage.lifetime i)
  provider : ∀ i, (stage'.provider i).Along f (stage.provider i)
  wake : ∀ w, Mirrors f (stage'.wake w) (stage.wake w)
  discard : Mirrors f stage'.discard stage.discard

section
variable {f : σ' → σ} {stage' : HostStage σ' H ρ V F W} {stage : HostStage σ H ρ V F W}

theorem mirrors_markStopped (along : HostStage.Along f stage' stage) (h : Host) :
    Mirrors f (h.markStopped stage') (h.markStopped stage) :=
  (along.lifetime _).read.bind fun _ => ((along.lifetime _).write _).bind fun _ =>
    mirrors_forM along.wake _

theorem mirrors_release (along : HostStage.Along f stage' stage) (h : Host) :
    Mirrors f (h.release stage') (h.release stage) :=
  (along.provider _).read.bind fun _ => ((along.provider _).write _).bind fun _ =>
    along.discard.bind fun _ => mirrors_pure _

theorem mirrors_finish (along : HostStage.Along f stage' stage) (h : Host)
    (records : List ShutdownRecord) :
    Mirrors f (h.finish stage' records) (h.finish stage records) :=
  (mirrors_markStopped along h).bind fun _ => (mirrors_release along h).bind fun _ =>
    (along.report _).bind fun _ => mirrors_pure _

theorem mirrors_drop (along : HostStage.Along f stage' stage) (h : Host) :
    Mirrors f (h.drop stage') (h.drop stage) := by
  unfold Host.drop
  by_cases stopped : h.state = .stopped
  · rw [if_pos stopped, if_pos stopped]
    exact mirrors_pure _
  · rw [if_neg stopped, if_neg stopped]
    exact (along.report _).bind fun _ => (mirrors_markStopped along h).bind fun _ =>
      (mirrors_release along h).bind fun _ => mirrors_pure _

variable [BEq W]

theorem mirrors_pollDisposal (along : HostStage.Along f stage' stage) (d : Disposal H ρ) :
    Mirrors f (Host.pollDisposal stage' d) (Host.pollDisposal stage d) := by
  refine (along.pollShutdown d.shutdown).bind fun step => ?_
  cases step with
  | waiting s => exact mirrors_pure _
  | panicked message => exact mirrors_pure _
  | done records => exact (mirrors_finish along d.host records).bind fun _ => mirrors_pure _

theorem mirrors_dispose (along : HostStage.Along f stage' stage) (h : Host) :
    Mirrors f (h.dispose stage') (h.dispose stage) := by
  unfold Host.dispose
  cases h.report with
  | some report => exact (along.report _).bind fun _ => mirrors_pure _
  | none =>
    exact (along.lifetime _).read.bind fun _ => ((along.lifetime _).write _).bind fun _ =>
      (mirrors_forM along.wake _).bind fun _ => (along.report _).bind fun _ =>
        mirrors_pollDisposal along _

theorem mirrors_follow (along : HostStage.Along f stage' stage)
    {act' : StateM σ Unit → StateM σ' Unit} (each : ∀ act, Mirrors f (act' act) act)
    (acts : List (StateM σ Unit)) (step : Step (Disposal H ρ) (Host × ShutdownReport)) :
    Mirrors f (Host.follow stage' (acts.map act') step) (Host.follow stage acts step) := by
  induction acts generalizing step with
  | nil =>
    cases step with
    | waiting d => exact (along.abandonShutdown d.shutdown).bind fun _ => mirrors_pure _
    | done x => exact mirrors_pure _
    | panicked message => exact mirrors_pure _
  | cons act acts ih =>
    cases step with
    | waiting d => exact (each act).bind fun _ => (mirrors_pollDisposal along d).bind fun _ => ih _
    | done x => exact mirrors_pure _
    | panicked message => exact mirrors_pure _

theorem mirrors_attempt (along : HostStage.Along f stage' stage) (h : Host)
    {act' : StateM σ Unit → StateM σ' Unit} (each : ∀ act, Mirrors f (act' act) act)
    (acts : List (StateM σ Unit)) :
    Mirrors f (h.attempt stage' (acts.map act')) (h.attempt stage acts) :=
  (mirrors_dispose along h).bind fun step => mirrors_follow along each acts step

end

/-! ## Watching -/

/-- A state, and all states that were passed through up to it, in order. -/
structure Watched (σ : Type) where
  now : σ
  seen : List σ

/-- Goes on to a state, which is put on record. -/
def Watched.enter (w : Watched σ) (s : σ) : Watched σ := ⟨s, w.seen ++ [s]⟩

/-- A place of a state that is watched. -/
def Place.watched (p : Place σ α) : Place (Watched σ) α :=
  ⟨fun w => p.get w.now, fun a w => w.enter (p.set a w.now)⟩

/-- Does to a watched state what is done to the state. -/
def watch (m : StateM σ α) : StateM (Watched σ) α := fun w => ((m w.now).1, w.enter (m w.now).2)

/-- A stage, watched. -/
def HostStage.watched (stage : HostStage σ H ρ V F W) : HostStage (Watched σ) H ρ V F W where
  timer := stage.timer.watched
  waker := stage.waker
  report e := watch (stage.report e)
  start := stage.start
  poll r := watch (stage.poll r)
  abandon r := watch (stage.abandon r)
  provider i := (stage.provider i).watched
  lifetime i := (stage.lifetime i).watched
  wake w := watch (stage.wake w)
  discard := watch stage.discard

theorem Place.along_watched (p : Place σ α) : p.watched.Along Watched.now p :=
  ⟨fun _ => rfl, fun _ _ => rfl⟩

theorem mirrors_watch (m : StateM σ α) : Mirrors Watched.now (watch m) m := fun _ => ⟨rfl, rfl⟩

theorem HostStage.along_watched (stage : HostStage σ H ρ V F W) :
    HostStage.Along Watched.now stage.watched stage where
  timer := stage.timer.along_watched
  waker := rfl
  report _ := mirrors_watch _
  start := rfl
  poll _ := mirrors_watch _
  abandon _ := mirrors_watch _
  lifetime i := (stage.lifetime i).along_watched
  provider i := (stage.provider i).along_watched
  wake _ := mirrors_watch _
  discard := mirrors_watch _

/-- What is watched is one of the things that may be done. -/
def Watches (around : StateM σ Unit → Prop) (act : StateM (Watched σ) Unit) : Prop :=
  ∃ m, around m ∧ act = watch m

/-- The state is in an era, and so was each state on record, in one era or another. -/
def Watched.In (C : Era → σ → Prop) (era : Era) (w : Watched σ) : Prop :=
  C era w.now ∧ ∀ s ∈ w.seen, ∃ era, C era s

section
variable {C : Era → σ → Prop} {era era' : Era}

theorem Watched.In.enter {w : Watched σ} (watched : w.In C era) {s : σ} (entered : C era' s) :
    (w.enter s).In C era' := by
  refine ⟨entered, fun u hu => ?_⟩
  rcases List.mem_append.mp hu with old | new
  · exact watched.2 u old
  · rw [List.mem_singleton.mp new]
    exact ⟨era', entered⟩

theorem keeps_watch {m : StateM σ α} (keeps : Keeps (C era) m) :
    Keeps (Watched.In C era) (watch m) :=
  fun w watched => watched.enter (keeps w.now watched.1)

theorem HostStage.Respects.watched {stage : HostStage σ H ρ V F W} {lifetime provider : Nat}
    (respects : stage.Respects lifetime provider (C era)) :
    stage.watched.Respects lifetime provider (Watched.In C era) where
  timer t w watched := watched.enter (respects.timer t w.now watched.1)
  report e := keeps_watch (respects.report e)
  poll r := keeps_watch (respects.poll r)
  abandon r := keeps_watch (respects.abandon r)
  wake w := keeps_watch (respects.wake w)
  discard := keeps_watch respects.discard
  register w hook l watched accepted :=
    watched.enter (respects.register w.now hook l watched.1 accepted)
  keep w key v p kept watched done := watched.enter (respects.keep w.now key v p kept watched.1 done)

/-- A host goes through the same eras when it is watched. -/
theorem HostStage.Unfolds.watched {stage : HostStage σ H ρ V F W} {lifetime provider : Nat}
    {around : StateM σ Unit → Prop} {n : Nat}
    (unfolds : stage.Unfolds lifetime provider around C n) :
    stage.watched.Unfolds lifetime provider (Watches around) (Watched.In C) n where
  respects era := (unfolds.respects era).watched
  around := by
    rintro _ ⟨m, allowed, rfl⟩ era
    exact keeps_watch (unfolds.around m allowed era)
  begins w watched := watched.enter (unfolds.begins w.now watched.1)
  begun w watched := ⟨watched.enter (unfolds.begun w.now watched.1).1,
    (unfolds.begun w.now watched.1).2⟩
  stops w watched := by
    rcases watched with running | stopping
    · exact running.enter (unfolds.stops w.now (.inl running.1))
    · exact stopping.enter (unfolds.stops w.now (.inr stopping.1))
  releases w watched := ⟨(unfolds.releases w.now watched.1).1,
    watched.enter (unfolds.releases w.now watched.1).2⟩

end

end HostBench
