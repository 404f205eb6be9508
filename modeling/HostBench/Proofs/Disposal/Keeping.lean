/-
  The eras of a host. It runs, its hooks run, it has stopped, and then its services are released; a
  disposal that is cut short stays where its hooks were. What holds in an era is left as it is by all
  that a stage calls (`HostStage.Respects`) and so by all hooks in turn (`QueueCourse.keeps`), and
  passes from one era to the next by what the host itself does to its lifetime and its provider
  (`HostStage.Unfolds`).

  So an attempt to dispose a host ends where its services are released, if it returns at all, and
  stays where the hooks were if it is cut short (`Host.ensures_attempt`). A drop releases the services
  at once (`Host.ensures_drop`).
-/
import HostBench.Proofs.Disposal.Composed
import HostBench.Proofs.Disposal.Course
import HostBench.Proofs.Service.Recipe

namespace HostBench

variable {σ H ρ V F W α β : Type}

/-! ## Programs -/

/-- Whenever `P` holds before a program, `Q` holds of its answer and of the state after it. -/
def Ensures (P : σ → Prop) (m : StateM σ α) (Q : α → σ → Prop) : Prop :=
  ∀ s, P s → Q (m s).1 (m s).2

/-- A program leaves a property of the state as it is. -/
abbrev Keeps (P : σ → Prop) (m : StateM σ α) : Prop := Ensures P m fun _ => P

namespace Ensures

variable {P P' : σ → Prop} {Q R : α → σ → Prop} {m : StateM σ α}

theorem bind {k : α → StateM σ β} {Q : β → σ → Prop} (first : Ensures P m R)
    (next : ∀ a, Ensures (R a) (k a) Q) : Ensures P (m >>= k) Q :=
  fun s hs => next _ _ (first s hs)

theorem pure (a : α) (holds : ∀ s, P s → Q a s) : Ensures P (pure a) Q := holds

theorem mono (ensures : Ensures P m Q) (before : ∀ s, P' s → P s) (after : ∀ a s, Q a s → R a s) :
    Ensures P' m R :=
  fun s hs => after _ _ (ensures s (before s hs))

end Ensures

section
variable {P : σ → Prop}

theorem keeps_pure (a : α) : Keeps P (pure a) := fun _ hs => hs

theorem keeps_read (place : Place σ α) : Keeps P place.read := fun _ hs => hs

/-- The programs that leave a property of the state as it is. -/
def keepsKind (P : σ → Prop) : ProgramKind σ := ⟨fun m => Keeps P m, keeps_pure, Ensures.bind⟩

theorem keeps_forM {f : α → StateM σ PUnit} (each : ∀ a, Keeps P (f a)) (l : List α) :
    Keeps P (l.forM f) := (has_forM each l : (keepsKind P).Has (l.forM f))

/-- To resolve a capability leaves as it is what factories leave as it is, and whoever is told of what
was created, if it survives that a singleton is kept which was to be made. -/
theorem keeps_resolve_from {place : Place σ (Provider V F)}
    {make : F → StateM σ (Except ResolveError V)}
    {created : Capability → ServiceLifetime → StateM σ Unit} (makes : ∀ f, Keeps P (make f))
    (tells : ∀ key lifetime, Keeps P (created key lifetime)) {key : Capability} {s : σ}
    (keep : ∀ lifetime f, (place.get s).lookup key = .toMake lifetime f → lifetime ≠ .transient →
      ∀ s' v p kept, P s' → (place.get s').keep key v = .ok (p, kept) → P (place.set p s'))
    (holds : P s) : P (Provider.resolve place make created key s).2 := by
  cases looked : (place.get s).lookup key with
  | found v => rwa [Provider.resolve_of_found looked]
  | refused e => rwa [Provider.resolve_of_refused looked]
  | toMake lifetime f =>
    have after := makes f s holds
    cases made : make f s with
    | mk result s' =>
      rw [made] at after
      cases result with
      | error e =>
        rw [Provider.resolve_of_failed looked made]
        exact after
      | ok v =>
        have told := tells key lifetime s' after
        rw [Provider.resolve_of_made looked made]
        dsimp only
        by_cases transient : lifetime = .transient
        · rw [if_pos transient]
          exact told
        · rw [if_neg transient]
          cases kept : (place.get (created key lifetime s').2).keep key v with
          | error e => exact told
          | ok answer => exact keep lifetime f looked transient _ v answer.1 answer.2 told kept

/-- So it does with what does not depend on the singletons that are kept. -/
theorem keeps_resolve {place : Place σ (Provider V F)} {make : F → StateM σ (Except ResolveError V)}
    {created : Capability → ServiceLifetime → StateM σ Unit} (makes : ∀ f, Keeps P (make f))
    (tells : ∀ key lifetime, Keeps P (created key lifetime))
    (keep : ∀ s key v p kept, P s → (place.get s).keep key v = .ok (p, kept) → P (place.set p s))
    (key : Capability) : Keeps P (Provider.resolve place make created key) :=
  fun _ holds => keeps_resolve_from makes tells
    (fun _ _ _ _ s' v p kept before done => keep s' key v p kept before done) holds

end

/-! ## What lasts while hooks run -/

/-- All that the hooks of a shutdown do, and all that is done with the timer, leaves a property of the
state as it is. -/
structure Stage.Respects (stage : Stage σ H ρ W) (P : σ → Prop) : Prop where
  timer : ∀ t s, P s → P (stage.timer.set t s)
  report : ∀ e, Keeps P (stage.report e)
  poll : ∀ r, Keeps P (stage.poll r)
  abandon : ∀ r, Keeps P (stage.abandon r)

theorem Stage.Respects.composed {stage : Stage σ H ρ W} {P : σ → Prop} (respects : stage.Respects P) :
    stage.Composed (keepsKind P) where
  timer := ⟨keeps_read _, respects.timer⟩
  report := respects.report
  poll := respects.poll
  abandon := respects.abandon

/-! ## What lasts over a course -/

section
variable [BEq W] {stage : Stage σ H ρ W} {host : String} {timeout : Duration} {P : σ → Prop}
  {s t : σ} {acts rest : List (StateM σ Unit)}

/-- Those who are left to act are the last ones. -/
theorem HookCourse.suffix {h : RunningHook ρ} {moments : List (Moment σ)} {fate : Fate}
    {outcome : Except Cut ShutdownRecord}
    (course : HookCourse stage host timeout h s acts moments fate outcome t rest) : rest <:+ acts := by
  induction course with
  | finished _ _ | timedOut _ _ | panicked _ _ | dropped _ _ => exact List.suffix_refl _
  | waited _ _ _ ih => exact ih.trans (List.suffix_cons _ _)

theorem HookCourse.keeps (composed : stage.Composed (keepsKind P)) {h : RunningHook ρ}
    {moments : List (Moment σ)} {fate : Fate} {outcome : Except Cut ShutdownRecord}
    (course : HookCourse stage host timeout h s acts moments fate outcome t rest)
    (keeps : ∀ act ∈ acts, Keeps P act) (before : P s) : P t := by
  have polls : ∀ {h : RunningHook ρ} {s t : σ} {step : Step (RunningHook ρ) ShutdownRecord},
      Shutdown.pollHook stage host timeout h s = (step, t) → P s → P t := by
    intro h s t step polled before
    have after := composed.has_pollHook host timeout h s before
    rwa [polled] at after
  induction course with
  | finished _ settled | timedOut _ settled | panicked _ settled => exact polls settled before
  | @dropped _ later _ _ _ _ _ waits =>
    exact composed.abandon later.routine _ (composed.has_lift later.limit _ (polls waits before))
  | waited _ waits _ ih =>
    exact ih (fun act hact => keeps act (List.mem_cons_of_mem _ hact))
      (keeps _ List.mem_cons_self _ (polls waits before))

variable {queue : List (Hook H)} {accounts : List (Account σ H)} {records : List ShutdownRecord}
  {cut : Option Cut}

/-- The hooks that are started are the first ones of the queue. -/
theorem QueueCourse.hooks_prefix
    (course : QueueCourse stage host timeout queue s acts accounts records cut t rest) :
    accounts.map Account.hook <+: queue := by
  induction course with
  | nothing => exact List.prefix_refl _
  | @next hook _ _ _ _ _ _ _ _ _ _ _ _ _ _ _ ih => exact List.cons_prefix_cons.mpr ⟨rfl, ih⟩
  | cut _ => exact List.cons_prefix_cons.mpr ⟨rfl, List.nil_prefix⟩

/-- What lasts over a course holds whenever a hook is started, and in the end. -/
theorem QueueCourse.keeps (composed : stage.Composed (keepsKind P))
    (course : QueueCourse stage host timeout queue s acts accounts records cut t rest)
    (keeps : ∀ act ∈ acts, Keeps P act) (before : P s) : (∀ a ∈ accounts, P a.initial) ∧ P t := by
  induction course with
  | nothing => exact ⟨fun a ha => absurd ha List.not_mem_nil, before⟩
  | next first _ ih =>
    obtain ⟨others, after⟩ := ih (fun act hact => keeps act (first.suffix.subset hact))
      (first.keeps composed keeps before)
    exact ⟨List.forall_mem_cons.mpr ⟨before, others⟩, after⟩
  | cut first => exact ⟨List.forall_mem_singleton.mpr before, first.keeps composed keeps before⟩

end

/-! ## Eras -/

/-- How far a host is on its way to the end, with its services. -/
inductive Era where
  | running
  | stopping
  | stopped
  /-- The host has stopped, and its services are released. -/
  | released

/-- All that a stage calls leaves a property of the state as it is, and so does whoever registers a
hook or keeps a singleton in the provider. -/
structure HostStage.Respects (stage : HostStage σ H ρ V F W) (lifetime provider : Nat) (P : σ → Prop) :
    Prop extends stage.toStage.Respects P where
  wake : ∀ w, Keeps P (stage.wake w)
  discard : Keeps P stage.discard
  register : ∀ s hook l, P s → ((stage.lifetime lifetime).get s).register hook = .ok l →
    P ((stage.lifetime lifetime).set l s)
  keep : ∀ s key v p kept, P s → ((stage.provider provider).get s).keep key v = .ok (p, kept) →
    P ((stage.provider provider).set p s)

/-- What holds of the state in each era of a host, which has `n` services until they are released. The
eras change only by what is done to the lifetime and the provider of the host. -/
structure HostStage.Unfolds (stage : HostStage σ H ρ V F W) (lifetime provider : Nat)
    (around : StateM σ Unit → Prop) (C : Era → σ → Prop) (n : Nat) : Prop where
  respects : ∀ era, stage.Respects lifetime provider (C era)
  around : ∀ act, around act → ∀ era, Keeps (C era) act
  begins : ∀ s, C .running s → C .stopping
    ((stage.lifetime lifetime).set ((stage.lifetime lifetime).get s).beginStopping.1 s)
  /-- The hooks are handed over only once. -/
  begun : ∀ s, C .stopping s → C .stopping
    ((stage.lifetime lifetime).set ((stage.lifetime lifetime).get s).beginStopping.1 s) ∧
      ((stage.lifetime lifetime).get s).beginStopping.2.1 = []
  stops : ∀ s, C .running s ∨ C .stopping s → C .stopped
    ((stage.lifetime lifetime).set ((stage.lifetime lifetime).get s).markStopped.1 s)
  releases : ∀ s, C .stopped s → ((stage.provider provider).get s).size = n ∧
    C .released ((stage.provider provider).set .released s)

namespace Host

variable {stage : HostStage σ H ρ V F W} {around : StateM σ Unit → Prop} {C : Era → σ → Prop} {n : Nat}
  {h : Host}

theorem ensures_enterStopping
    (unfolds : stage.Unfolds h.lifetime h.provider around C n) :
    Ensures (fun s => C .running s ∨ C .stopping s) (h.enterStopping stage) fun _ => C .stopping := by
  intro s hs
  have entered : C .stopping ((stage.lifetime h.lifetime).set
      ((stage.lifetime h.lifetime).get s).beginStopping.1 s) :=
    hs.elim (unfolds.begins s) fun stopping => (unfolds.begun s stopping).1
  have respects := unfolds.respects .stopping
  exact respects.report _ _ (keeps_forM respects.wake _ _ entered)

theorem ensures_markStopped (unfolds : stage.Unfolds h.lifetime h.provider around C n) :
    Ensures (fun s => C .running s ∨ C .stopping s) (h.markStopped stage) fun _ => C .stopped :=
  fun s hs => keeps_forM (unfolds.respects .stopped).wake _ _ (unfolds.stops s hs)

theorem ensures_release (unfolds : stage.Unfolds h.lifetime h.provider around C n) :
    Ensures (C .stopped) (h.release stage) fun count s => count = n ∧ C .released s :=
  fun s hs => ⟨(unfolds.releases s hs).1,
    (unfolds.respects .released).discard _ (unfolds.releases s hs).2⟩

/-- The host after a disposal that has returned a report. -/
def reporting (h : Host) (report : ShutdownReport) : Host :=
  { h with state := .stopped, report := some report }

theorem ensures_finish (unfolds : stage.Unfolds h.lifetime h.provider around C n)
    (records : List ShutdownRecord) :
    Ensures (C .stopping) (h.finish stage records) fun x s =>
      x = (h.reporting ⟨records, n⟩, ⟨records, n⟩) ∧ C .released s := by
  refine Ensures.bind (R := fun _ => C .stopped)
    ((ensures_markStopped unfolds).mono (fun _ hs => .inr hs) fun _ _ hs => hs) fun _ => ?_
  refine (ensures_release unfolds).bind fun count => ?_
  rintro s ⟨rfl, released⟩
  exact ⟨rfl, (unfolds.respects .released).report _ _ released⟩

/-- The era in which a poll of a disposal leaves the host. -/
def Left (C : Era → σ → Prop) (n : Nat) (h : Host) :
    Step (Disposal H ρ) (Host × ShutdownReport) → σ → Prop
  | .waiting d, s => d.host = h ∧ C .stopping s
  | .panicked _, s => C .stopping s
  | .done (h', report), s => h' = h.reporting report ∧ report.released = n ∧ C .released s

/-- The era in which an attempt to dispose a host leaves it. -/
def Ended (C : Era → σ → Prop) (n : Nat) (h : Host) : Ending → σ → Prop
  | .cut _, s => C .stopping s
  | .returned h' report, s => h' = h.reporting report ∧ report.released = n ∧ C .released s

variable [BEq W]

theorem ensures_pollDisposal (unfolds : stage.Unfolds h.lifetime h.provider around C n)
    (s : Shutdown H ρ) :
    Ensures (C .stopping) (pollDisposal stage ⟨h, s⟩) (h.Left C n) := by
  refine Ensures.bind (R := fun _ => C .stopping)
    ((unfolds.respects .stopping).composed.has_pollShutdown s) fun step => ?_
  cases step with
  | waiting s => exact fun _ hs => ⟨rfl, hs⟩
  | panicked message => exact fun _ hs => hs
  | done records =>
    refine (ensures_finish unfolds records).bind fun x => ?_
    rintro t ⟨rfl, released⟩
    exact ⟨rfl, rfl, released⟩

/-- However long the hooks keep a disposal waiting, the era does not change up to its end. -/
theorem ensures_follow (unfolds : stage.Unfolds h.lifetime h.provider around C n)
    {acts : List (StateM σ Unit)} (allowed : ∀ act ∈ acts, around act)
    (step : Step (Disposal H ρ) (Host × ShutdownReport)) :
    Ensures (h.Left C n step) (follow stage acts step) (h.Ended C n) := by
  induction acts generalizing step with
  | nil =>
    cases step with
    | waiting d =>
      rintro s ⟨-, stopping⟩
      exact (unfolds.respects .stopping).composed.has_abandonShutdown d.shutdown s stopping
    | done x => exact fun _ hs => hs
    | panicked message => exact fun _ hs => hs
  | cons act acts ih =>
    cases step with
    | waiting d =>
      obtain ⟨h', shutdown⟩ := d
      rintro s ⟨rfl, stopping⟩
      have acted := unfolds.around act (allowed act List.mem_cons_self) .stopping s stopping
      exact ih (fun a ha => allowed a (List.mem_cons_of_mem _ ha)) _ _
        (ensures_pollDisposal unfolds shutdown _ acted)
    | done x => exact fun _ hs => hs
    | panicked message => exact fun _ hs => hs

/-- An attempt that returns leaves the host stopped, with its services released, and one that is cut
short leaves it where its hooks were. -/
theorem ensures_attempt (unfolds : stage.Unfolds h.lifetime h.provider around C n)
    (fresh : h.report = none) {acts : List (StateM σ Unit)} (allowed : ∀ act ∈ acts, around act) :
    Ensures (fun s => C .running s ∨ C .stopping s) (h.attempt stage acts) (h.Ended C n) := by
  refine Ensures.bind (R := h.Left C n) ?_ fun step => ensures_follow unfolds allowed step
  intro s hs
  rw [dispose_of_fresh fresh]
  exact ensures_pollDisposal unfolds _ _ (ensures_enterStopping unfolds s hs)

/-- An attempt after one that was cut short finds no hooks to wait for. -/
theorem attempt_again (unfolds : stage.Unfolds h.lifetime h.provider around C n)
    (fresh : h.report = none) (acts : List (StateM σ Unit)) {s : σ} (stopping : C .stopping s) :
    ∃ h' report, (h.attempt stage acts s).1 = .returned h' report := by
  have none_left : (h.enterStopping stage s).1 = [] := (unfolds.begun s stopping).2
  rw [attempt_of_fresh fresh, none_left]
  exact ⟨_, _, rfl⟩

omit [BEq W] in
/-- A host that is dropped before it has stopped releases its services all the same. -/
theorem ensures_drop (unfolds : stage.Unfolds h.lifetime h.provider around C n)
    (unstopped : h.state ≠ .stopped) :
    Ensures (fun s => C .running s ∨ C .stopping s) (h.drop stage) fun _ => C .released := by
  unfold drop
  rw [if_neg unstopped]
  refine Ensures.bind (R := fun _ s => C .running s ∨ C .stopping s) ?_ fun _ =>
    (ensures_markStopped unfolds).bind fun _ => (ensures_release unfolds).bind fun _ => ?_
  · rintro s (running | stopping)
    · exact .inl ((unfolds.respects .running).report _ s running)
    · exact .inr ((unfolds.respects .stopping).report _ s stopping)
  · exact fun _ hs => hs.2

end Host

end HostBench
