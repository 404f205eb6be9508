/-
  What becomes of the hooks of a host. Whoever has its lifetime may want to register hooks, at any
  time, while the host is disposed, once or again and with or without success, and in the end dropped
  (`Tenure.Action`). A tenure keeps the hooks that were accepted, and a diary that is kept meanwhile has
  those that were started; to keep it makes no difference (`Tenure.plain_run`).

  `Holds` is the invariant: what is held while the host runs is all that was accepted, and only the
  disposal that ends this takes hooks away. `Holds.perform` keeps it, whatever is done, and
  `starts_in_turn` says what it comes to: hooks are started in the order in which they were accepted,
  each once, while the host is about to stop and at no other time.
-/
import HostBench.Proofs.Building.Inventory
import HostBench.Proofs.Disposal.Told

namespace HostBench

variable {E V F H W σ ρ : Type}

/-! ## Tenures -/

/-- A host and the state around it, and the hooks that were accepted so far, in order. -/
structure Tenure (σ H : Type) where
  estate : Estate σ
  accepted : List (Hook H)

namespace Tenure

/-- What is done with a host, or by others meanwhile. -/
inductive Action (σ H : Type) where
  | register (hook : Hook H)
  | dispose (acts : List (StateM σ Unit))
  | drop
  | meanwhile (act : StateM σ Unit)

/-- A host that has just been built with these hooks. -/
def built (settings : Settings) (hooks : List (Hook H)) (provider lifetime : Nat) (s : σ) :
    Tenure σ H :=
  ⟨.built settings provider lifetime s, hooks⟩

/-- The host and the state around it have gone on, and no hooks were accepted. -/
def went (t : Tenure σ H) (e : Estate σ) : Tenure σ H := ⟨e, t.accepted⟩

section
variable (stage : HostStage σ H ρ V F W)

/-- The lifetime of the host. -/
def lifetime (t : Tenure σ H) : Lifetime H W :=
  (stage.lifetime t.estate.host.lifetime).get t.estate.state

/-- A hook is accepted, which leaves this lifetime. -/
def accept (t : Tenure σ H) (hook : Hook H) (l : Lifetime H W) : Tenure σ H :=
  ⟨(stage.lifetime t.estate.host.lifetime).ofEstate.set l t.estate, t.accepted ++ [hook]⟩

/-- Registers a hook. -/
def register (t : Tenure σ H) (hook : Hook H) : Except DisposedError (Tenure σ H) :=
  ((t.lifetime stage).register hook).map (t.accept stage hook)

/-- Does it. A host that was dropped is neither disposed nor dropped again, but others may still have
its lifetime. -/
def perform [BEq W] (t : Tenure σ H) : Action σ H → Tenure σ H
  | .register hook =>
    match t.register stage hook with
    | .ok t' => t'
    | .error _ => t
  | .dispose acts => if t.estate.dropped then t else t.went (t.estate.attempt stage acts)
  | .drop => if t.estate.dropped then t else t.went (t.estate.drop stage)
  | .meanwhile act => t.went (t.estate.act act)

/-- Does one thing after the other. -/
def run [BEq W] (t : Tenure σ H) (actions : List (Action σ H)) : Tenure σ H :=
  actions.foldl (perform stage) t

variable {stage} in
theorem perform_of_accepted [BEq W] {t t' : Tenure σ H} {hook : Hook H}
    (accepted : t.register stage hook = .ok t') : t.perform stage (.register hook) = t' := by
  simp only [perform, accepted]

variable {stage} in
theorem perform_of_refused [BEq W] {t : Tenure σ H} {hook : Hook H} {e : DisposedError}
    (refused : t.register stage hook = .error e) : t.perform stage (.register hook) = t := by
  simp only [perform, refused]

/-- Whoever is around uses the host, and registers hooks openly or not at all. -/
def Action.Allowed (lifetime provider : Nat) : Action σ H → Prop
  | .dispose acts => ∀ m ∈ acts, stage.Minds lifetime provider m
  | .meanwhile act => stage.Minds lifetime provider act ∧ ∀ s,
    ((stage.lifetime lifetime).get (act s).2).hooks = ((stage.lifetime lifetime).get s).hooks
  | _ => True

variable {stage}

theorem of_register {t t' : Tenure σ H} {hook : Hook H} (accepted : t.register stage hook = .ok t') :
    ∃ l, (t.lifetime stage).register hook = .ok l ∧ t' = t.accept stage hook l := by
  unfold register at accepted
  cases registered : (t.lifetime stage).register hook with
  | error e =>
    rw [registered] at accepted
    cases accepted
  | ok l =>
    rw [registered] at accepted
    exact ⟨l, rfl, (Except.ok.inj accepted).symm⟩

/-- A registration is refused from the end of the first phase on. -/
theorem register_of_ne_running {t : Tenure σ H} (stopping : (t.lifetime stage).phase ≠ .running)
    (hook : Hook H) : t.register stage hook = .error ⟨"register_on_stop"⟩ := by
  unfold register
  rw [Lifetime.register_of_ne_running stopping]
  rfl

theorem register_iff (t : Tenure σ H) (hook : Hook H) :
    (∃ t', t.register stage hook = .ok t') ↔ (t.lifetime stage).phase = .running := by
  constructor
  · rintro ⟨t', accepted⟩
    obtain ⟨l, registered, -⟩ := of_register accepted
    exact (Lifetime.register_eq_ok_iff.mp registered).1
  · intro running
    have registered : (t.lifetime stage).register hook =
        .ok { t.lifetime stage with hooks := (t.lifetime stage).hooks ++ [hook] } :=
      Lifetime.register_eq_ok_iff.mpr ⟨running, rfl⟩
    exact ⟨_, by rw [register, registered]; rfl⟩

end

/-! ## A diary of a tenure -/

/-- The same, noted in a diary. -/
def Action.jotted : Action σ H → Action (Diary σ H) H
  | .register hook => .register hook
  | .dispose acts => .dispose (acts.map jot)
  | .drop => .drop
  | .meanwhile act => .meanwhile (jot act)

/-- A tenure without its diary. -/
def plain (t : Tenure (Diary σ H) H) : Tenure σ H :=
  ⟨⟨t.estate.state.now, t.estate.host, t.estate.endings, t.estate.dropped⟩, t.accepted⟩

/-- The hooks that were started so far, in order, each with the state at that time. -/
def starts (t : Tenure (Diary σ H) H) : List (Hook H × σ) := t.estate.state.starts

section
variable [BEq W] {stage : HostStage σ H ρ V F W}

theorem plain_perform (t : Tenure (Diary σ H) H) (action : Action σ H) :
    (t.perform stage.diary action.jotted).plain = t.plain.perform stage action := by
  cases action with
  | register hook =>
    have same : t.lifetime stage.diary = t.plain.lifetime stage := rfl
    simp only [perform, Action.jotted, register, same]
    cases (t.plain.lifetime stage).register hook <;> rfl
  | dispose acts =>
    obtain ⟨answer, after⟩ := renders_attempt stage t.estate.host acts t.estate.state
    rw [Action.jotted, perform, perform, show t.plain.estate.dropped = t.estate.dropped from rfl]
    by_cases dropped : t.estate.dropped = true
    · rw [if_pos dropped, if_pos dropped]
    · rw [if_neg dropped, if_neg dropped]
      simp only [plain, went, Estate.attempt]
      rw [← answer, ← after]
      rfl
  | drop =>
    obtain ⟨-, after⟩ := renders_drop stage t.estate.host t.estate.state
    rw [Action.jotted, perform, perform, show t.plain.estate.dropped = t.estate.dropped from rfl]
    by_cases dropped : t.estate.dropped = true
    · rw [if_pos dropped, if_pos dropped]
    · rw [if_neg dropped, if_neg dropped]
      simp only [plain, went, Estate.drop]
      rw [← after]
  | meanwhile act => rfl

/-- To keep a diary makes no difference. -/
theorem plain_run (t : Tenure (Diary σ H) H) (actions : List (Action σ H)) :
    (t.run stage.diary (actions.map Action.jotted)).plain = t.plain.run stage actions := by
  induction actions generalizing t with
  | nil => rfl
  | cons action actions ih =>
    show ((t.perform stage.diary action.jotted).run stage.diary (actions.map Action.jotted)).plain =
      (t.plain.perform stage action).run stage actions
    rw [ih, plain_perform]

end

/-! ## What holds at any time -/

/-- The diary has a line of the time when the host was about to stop. -/
def Passed (p : Place σ (Lifetime H W)) (d : Diary σ H) : Prop :=
  ∃ x ∈ d.lines, (p.get x.state).phase = .stopping

/-- How a host stands with its hooks. -/
structure Holds (stage : HostStage σ H ρ V F W) (lifetime provider n : Nat) (hooks : List (Hook H))
    (t : Tenure (Diary σ H) H) : Prop where
  stands : t.estate.Stands (stage.Told lifetime provider n) lifetime provider n
  first : hooks <+: t.accepted
  in_turn : t.starts.map Prod.fst <+: t.accepted
  stopping : ∀ x ∈ t.starts, ((stage.lifetime lifetime).get x.2).phase = .stopping
  waiting : (t.lifetime stage.diary).phase = .running →
    (t.lifetime stage.diary).hooks = t.accepted ∧ t.starts = []
  untried : t.estate.endings = [] → t.starts = []
  passed : t.estate.dropped = false → (t.lifetime stage.diary).phase ≠ .running →
    Passed (stage.lifetime lifetime) t.estate.state

section
variable {stage : HostStage σ H ρ V F W} {lifetime provider n : Nat} {hooks : List (Hook H)}
  {t t' : Tenure (Diary σ H) H}

/-- A host runs until somebody tries to dispose it, or it is dropped. -/
theorem running_iff (stands : t.estate.Stands (stage.Told lifetime provider n) lifetime provider n) :
    (t.lifetime stage.diary).phase = .running ↔
      t.estate.dropped = false ∧ t.estate.endings = [] := by
  obtain ⟨rfl, -, agrees⟩ := stands
  cases agrees with
  | opened kept _ _ _ told =>
    cases tried : t.estate.endings with
    | nil =>
      rw [Estate.era, tried] at told
      exact ⟨fun _ => ⟨kept, rfl⟩, fun _ => told.1.phase⟩
    | cons first others =>
      rw [Estate.era, tried] at told
      refine ⟨fun running => ?_, fun untried => ?_⟩
      · cases running.symm.trans told.1.phase
      · cases untried.2
  | closed _ _ _ _ first _ told =>
    refine ⟨fun running => ?_, fun untried => ?_⟩
    · cases running.symm.trans told.1.phase
    · rw [Estate.reports, untried.2] at first
      cases first
  | gone dropped told =>
    refine ⟨fun running => ?_, fun untried => ?_⟩
    · cases running.symm.trans told.1.phase
    · rw [untried.1] at dropped
      cases dropped

namespace Holds

/-- Nothing is started by what is done. -/
theorem of_quiet (holds : t.Holds stage lifetime provider n hooks)
    (stands : t'.estate.Stands (stage.Told lifetime provider n) lifetime provider n)
    (quiet : t'.starts = t.starts) (longer : t.accepted <+: t'.accepted)
    (waiting : (t'.lifetime stage.diary).phase = .running →
      (t'.lifetime stage.diary).hooks = t'.accepted ∧ t.starts = [])
    (endings : t'.estate.endings = t.estate.endings)
    (passed : t'.estate.dropped = false → (t'.lifetime stage.diary).phase ≠ .running →
      Passed (stage.lifetime lifetime) t'.estate.state) :
    t'.Holds stage lifetime provider n hooks where
  stands := stands
  first := holds.first.trans longer
  in_turn := by
    rw [quiet]
    exact holds.in_turn.trans longer
  stopping := by
    rw [quiet]
    exact holds.stopping
  waiting := by
    rw [quiet]
    exact waiting
  untried := by
    rw [quiet, endings]
    exact holds.untried
  passed := passed

theorem register (guarded : stage.Guarded lifetime provider)
    (holds : t.Holds stage lifetime provider n hooks) {hook : Hook H}
    (accepted : t.register stage.diary hook = .ok t') : t'.Holds stage lifetime provider n hooks := by
  obtain ⟨l, registered, rfl⟩ := of_register accepted
  obtain ⟨rfl, -, -⟩ := id holds.stands
  obtain ⟨running, longer⟩ := Lifetime.register_eq_ok_iff.mp registered
  obtain ⟨held, none_started⟩ := holds.waiting running
  have unfolds := guarded.unfolds_told n
  have left : (t.accept stage.diary hook l).lifetime stage.diary = l := guarded.lifetime_set l _
  refine holds.of_quiet ?_ (Diary.starts_enter _ _) (List.prefix_append _ _) (fun _ => ?_) rfl
    fun _ stopping => ?_
  · exact holds.stands.mono fun era told => (unfolds.respects era).register _ hook l told registered
  · rw [left, longer, held]
    exact ⟨rfl, none_started⟩
  · rw [left, longer] at stopping
    exact absurd running stopping

/-- Others do something that leaves the hooks alone. -/
theorem meanwhile (guarded : stage.Guarded lifetime provider)
    (holds : t.Holds stage lifetime provider n hooks) {act : StateM σ Unit}
    (minds : stage.Minds lifetime provider act)
    (leaves : ∀ s, ((stage.lifetime lifetime).get (act s).2).hooks =
      ((stage.lifetime lifetime).get s).hooks) :
    (t.went (t.estate.act (jot act))).Holds stage lifetime provider n hooks := by
  obtain ⟨rfl, -, -⟩ := id holds.stands
  have unfolds := guarded.unfolds_told n
  have same := Lifetime.Uses.phase_eq (minds t.estate.state.now).lifetime
  refine holds.of_quiet ?_ (Diary.starts_enter _ _) (List.prefix_refl _) (fun running => ?_) rfl
    fun kept stopping => ?_
  · exact holds.stands.mono fun era => unfolds.around _ ⟨act, minds, rfl⟩ era t.estate.state
  · obtain ⟨held, none_started⟩ := holds.waiting (same.symm.trans running)
    exact ⟨(leaves t.estate.state.now).trans held, none_started⟩
  · obtain ⟨x, listed, second⟩ := holds.passed kept fun running => stopping (same.trans running)
    exact ⟨x, List.mem_append_left _ listed, second⟩

theorem drop (guarded : stage.Guarded lifetime provider)
    (holds : t.Holds stage lifetime provider n hooks) (kept : t.estate.dropped = false) :
    (t.went (t.estate.drop stage.diary)).Holds stage lifetime provider n hooks := by
  have stands := holds.stands.drop (guarded.unfolds_told n) kept
  refine holds.of_quiet stands ?_ (List.prefix_refl _) (fun running => ?_) rfl fun undropped _ => ?_
  · exact t.estate.host.starts_drop t.estate.state
  · cases ((running_iff stands).mp running).1
  · cases undropped

end Holds

/-- An attempt to dispose a host starts the first ones of the hooks that it is handed, each of them
while the host is about to stop. -/
theorem exists_started [BEq W] (guarded : stage.Guarded lifetime provider)
    (stands : t.estate.Stands (stage.Told lifetime provider n) lifetime provider n)
    (kept : t.estate.dropped = false) {acts : List (StateM σ Unit)}
    (minds : ∀ m ∈ acts, stage.Minds lifetime provider m) :
    ∃ started, (t.estate.attempt stage.diary (acts.map jot)).state.starts = t.starts ++ started ∧
      started.map Prod.fst <+: (t.lifetime stage.diary).beginStopping.2.1 ∧
      ∀ x ∈ started, ((stage.lifetime lifetime).get x.2).phase = .stopping := by
  obtain ⟨rfl, rfl, agrees⟩ := stands
  cases agrees with
  | opened _ _ unreported _ told =>
    exact Host.exists_started guarded unreported minds (Estate.era_cases told)
  | closed _ _ reported _ _ _ _ =>
    refine ⟨[], ?_, List.nil_prefix, fun x hx => absurd hx List.not_mem_nil⟩
    show (t.estate.host.attempt stage.diary (acts.map jot) t.estate.state).2.starts = _
    rw [Host.attempt_of_reported reported, List.append_nil]
    exact Diary.starts_enter _ _
  | gone dropped _ =>
    rw [kept] at dropped
    cases dropped

/-- Where a host is disposed, it was about to stop at some time. -/
theorem passed_attempt [BEq W] (guarded : stage.Guarded lifetime provider)
    (holds : t.Holds stage lifetime provider n hooks) (kept : t.estate.dropped = false)
    (acts : List (StateM σ Unit)) :
    Passed (stage.lifetime lifetime) (t.estate.attempt stage.diary (acts.map jot)).state := by
  obtain ⟨rfl, rfl, agrees⟩ := holds.stands
  have lines := composed_lines stage t.estate.host.lifetime t.estate.host.provider fun x =>
    ((stage.lifetime t.estate.host.lifetime).get x.state).phase = .stopping
  cases agrees with
  | opened _ _ unreported _ _ =>
    have acted : ∀ act ∈ acts.map jot,
        Keeps (Passed (stage.lifetime t.estate.host.lifetime)) act := by
      intro act hact
      obtain ⟨m, -, rfl⟩ := List.mem_map.mp hact
      rintro d ⟨x, listed, second⟩
      exact ⟨x, List.mem_append_left _ listed, second⟩
    refine Host.lasts_attempt lines unreported acted ?_
    by_cases running : (t.lifetime stage.diary).phase = .running
    · refine ⟨_, List.mem_append_right _ List.mem_cons_self, ?_⟩
      show ((stage.lifetime t.estate.host.lifetime).get
        ((stage.lifetime t.estate.host.lifetime).set _ _)).phase = .stopping
      rw [guarded.lifetime_set]
      exact (Lifetime.beginStopping_of_running running).1
    · exact lines.lifetime.write _ _ (holds.passed kept running)
  | closed _ _ reported _ _ _ told =>
    have stopping : (t.lifetime stage.diary).phase ≠ .running := fun running => by
      cases running.symm.trans told.1.phase
    show Passed _ (t.estate.host.attempt stage.diary (acts.map jot) t.estate.state).2
    rw [Host.attempt_of_reported reported]
    exact lines.report _ _ (holds.passed kept stopping)
  | gone dropped _ =>
    rw [kept] at dropped
    cases dropped

namespace Holds

theorem attempt [BEq W] (guarded : stage.Guarded lifetime provider)
    (holds : t.Holds stage lifetime provider n hooks) (kept : t.estate.dropped = false)
    {acts : List (StateM σ Unit)} (minds : ∀ m ∈ acts, stage.Minds lifetime provider m) :
    (t.went (t.estate.attempt stage.diary (acts.map jot))).Holds stage lifetime provider n hooks := by
  have stands := holds.stands.attempt (guarded.unfolds_told n) kept (jots_map minds)
  have tried : (t.estate.attempt stage.diary (acts.map jot)).endings ≠ [] :=
    List.append_ne_nil_of_right_ne_nil _ (List.cons_ne_nil _ _)
  obtain ⟨started, starts, handed, stopping⟩ := exists_started guarded holds.stands kept minds
  refine {
    stands := stands
    first := holds.first
    in_turn := ?_
    stopping := ?_
    waiting := fun running => absurd ((running_iff stands).mp running).2 tried
    untried := fun fresh => absurd fresh tried
    passed := fun _ _ => passed_attempt guarded holds kept acts }
  · show List.map Prod.fst (t.estate.attempt stage.diary (acts.map jot)).state.starts <+: t.accepted
    rw [starts]
    by_cases running : (t.lifetime stage.diary).phase = .running
    · obtain ⟨held, none_started⟩ := holds.waiting running
      rw [(Lifetime.beginStopping_of_running running).2.2, held] at handed
      rwa [none_started]
    · rw [Lifetime.beginStopping, if_neg running] at handed
      rw [List.map_append, List.prefix_nil.mp handed, List.append_nil]
      exact holds.in_turn
  · show ∀ x ∈ (t.estate.attempt stage.diary (acts.map jot)).state.starts, _
    rw [starts]
    exact List.forall_mem_append.mpr ⟨holds.stopping, stopping⟩

/-- Whatever is done, the host stands with its hooks as it did. -/
theorem perform [BEq W] (guarded : stage.Guarded lifetime provider)
    (holds : t.Holds stage lifetime provider n hooks) {action : Action σ H}
    (allowed : action.Allowed stage lifetime provider) :
    (t.perform stage.diary action.jotted).Holds stage lifetime provider n hooks := by
  cases action with
  | register hook =>
    cases registered : t.register stage.diary hook with
    | ok t' =>
      rw [Action.jotted, perform_of_accepted registered]
      exact holds.register guarded registered
    | error e =>
      rw [Action.jotted, perform_of_refused registered]
      exact holds
  | dispose acts =>
    rw [Action.jotted, Tenure.perform]
    by_cases dropped : t.estate.dropped = true
    · rwa [if_pos dropped]
    · rw [if_neg dropped]
      exact holds.attempt guarded (Bool.eq_false_iff.mpr dropped) allowed
  | drop =>
    rw [Action.jotted, Tenure.perform]
    by_cases dropped : t.estate.dropped = true
    · rwa [if_pos dropped]
    · rw [if_neg dropped]
      exact holds.drop guarded (Bool.eq_false_iff.mpr dropped)
  | meanwhile act => exact holds.meanwhile guarded allowed.1 allowed.2

theorem run [BEq W] (guarded : stage.Guarded lifetime provider)
    (holds : t.Holds stage lifetime provider n hooks) {actions : List (Action σ H)}
    (allowed : ∀ action ∈ actions, action.Allowed stage lifetime provider) :
    (t.run stage.diary (actions.map Action.jotted)).Holds stage lifetime provider n hooks := by
  induction actions generalizing t with
  | nil => exact holds
  | cons action actions ih =>
    obtain ⟨first, others⟩ := List.forall_mem_cons.mp allowed
    exact ih (holds.perform guarded first) others

end Holds

end

/-! ## Every tenure -/

section
variable [BEq W] {stage : HostStage σ H ρ V F W} {lifetime provider : Nat}

/-- Only a disposal is an attempt to dispose a host. -/
theorem endings_run (t : Tenure σ H) {actions : List (Action σ H)}
    (undisposed : ∀ acts, Action.dispose acts ∉ actions) :
    (t.run stage actions).estate.endings = t.estate.endings := by
  induction actions generalizing t with
  | nil => rfl
  | cons action actions ih =>
    have same : (t.perform stage action).estate.endings = t.estate.endings := by
      cases action with
      | register hook =>
        cases registered : t.register stage hook with
        | ok t' =>
          obtain ⟨l, -, rfl⟩ := of_register registered
          rw [perform_of_accepted registered]
          rfl
        | error e => rw [perform_of_refused registered]
      | dispose acts => exact absurd List.mem_cons_self (undisposed acts)
      | drop =>
        rw [perform]
        split <;> rfl
      | meanwhile act => rfl
    have others := fun acts listed => undisposed acts (List.mem_cons_of_mem action listed)
    exact (ih (t.perform stage action) others).trans same

/-- The lifetime of the host as it was at each line of the diary, and as it is now. -/
def history (stage : HostStage σ H ρ V F W) (t : Tenure (Diary σ H) H) : List (Lifetime H W) :=
  t.estate.state.lifetimes (stage.lifetime t.estate.host.lifetime) ++ [t.lifetime stage.diary]

/-- How it stands with the hooks of a host that was built with some of them. -/
structure InTurn (stage : HostStage σ H ρ V F W) (hooks : List (Hook H)) (t : Tenure (Diary σ H) H) :
    Prop where
  /-- The phase has moved only forward. -/
  forward : (t.history stage).Pairwise fun l l' => l.phase.rank ≤ l'.phase.rank
  /-- The host runs until somebody tries to dispose it, or it is dropped. -/
  running_iff : (t.lifetime stage.diary).phase = .running ↔
    t.estate.dropped = false ∧ t.estate.endings = []
  /-- Only a drop skips the second phase. -/
  gradual : t.estate.dropped = false → (t.lifetime stage.diary).phase ≠ .running →
    ∃ l ∈ t.history stage, l.phase = .stopping
  /-- A hook is accepted just while the host runs, and comes last. -/
  accepts_iff : ∀ hook, (∃ t', t.register stage.diary hook = .ok t') ↔
    (t.lifetime stage.diary).phase = .running
  appends : ∀ hook t', t.register stage.diary hook = .ok t' →
    (t'.lifetime stage.diary).hooks = (t.lifetime stage.diary).hooks ++ [hook] ∧
      t'.accepted = t.accepted ++ [hook]
  /-- The same goes for any time in the middle of an operation. -/
  midway : ∀ l ∈ t.history stage, ∀ hook l', l.register hook = .ok l' ↔
    l.phase = .running ∧ l' = { l with hooks := l.hooks ++ [hook] }
  /-- A hook that is refused changes nothing. -/
  refuses : ∀ hook e, t.register stage.diary hook = .error e →
    e = ⟨"register_on_stop"⟩ ∧ t.perform stage.diary (.register hook) = t
  /-- The hooks of the builder are accepted before all others. -/
  first : hooks <+: t.accepted
  /-- Hooks are started in the order in which they were accepted, each at most once. -/
  in_turn : t.starts.map Prod.fst <+: t.accepted
  /-- They are started only while the host is about to stop. -/
  stopping : ∀ x ∈ t.starts, ((stage.lifetime t.estate.host.lifetime).get x.2).phase = .stopping
  /-- Up to that, all of them are held. -/
  waiting : (t.lifetime stage.diary).phase = .running →
    (t.lifetime stage.diary).hooks = t.accepted ∧ t.starts = []
  /-- After that, none of them is held. -/
  spent : ∀ l ∈ t.history stage, l.phase ≠ .running → l.hooks = []
  /-- Where the phase is the last one, none of them is started any more. -/
  final : ∀ before x after, t.estate.state.lines = before ++ x :: after →
    ((stage.lifetime t.estate.host.lifetime).get x.state).phase = .stopped →
      ∀ y ∈ after, y.start? = none

theorem Holds.inTurn {n : Nat} {hooks : List (Hook H)} {t : Tenure (Diary σ H) H}
    (guarded : stage.Guarded lifetime provider) (holds : t.Holds stage lifetime provider n hooks) :
    t.InTurn stage hooks := by
  obtain ⟨rfl, -, agrees⟩ := id holds.stands
  obtain ⟨era, -, tells⟩ := agrees.exists_era
  refine {
    forward := ?_
    running_iff := Tenure.running_iff holds.stands
    gradual := fun kept stopping => ?_
    accepts_iff := t.register_iff
    appends := ?_
    midway := fun _ _ _ _ => Lifetime.register_eq_ok_iff
    refuses := ?_
    first := holds.first
    in_turn := holds.in_turn
    stopping := holds.stopping
    waiting := holds.waiting
    spent := ?_
    final := fun _ _ _ split stopped => tells.none_started holds.stopping split stopped }
  · refine List.pairwise_append.mpr ⟨tells.forward, List.pairwise_singleton _ _, fun l hl l' hl' => ?_⟩
    rw [List.mem_singleton.mp hl']
    exact tells.upTo l hl
  · obtain ⟨x, listed, second⟩ := holds.passed kept stopping
    exact ⟨_, List.mem_append_left _ (List.mem_map_of_mem listed), second⟩
  · intro hook t' accepted
    obtain ⟨l, registered, rfl⟩ := of_register accepted
    have left : (t.accept stage.diary hook l).lifetime stage.diary = l := guarded.lifetime_set l _
    rw [left, (Lifetime.register_eq_ok_iff.mp registered).2]
    exact ⟨rfl, rfl⟩
  · intro hook e refused
    have stopping : (t.lifetime stage.diary).phase ≠ .running := by
      intro running
      obtain ⟨t', accepted⟩ := (t.register_iff hook).mpr running
      rw [refused] at accepted
      cases accepted
    refine ⟨Except.error.inj (refused.symm.trans (register_of_ne_running stopping hook)),
      perform_of_refused refused⟩
  · exact List.forall_mem_append.mpr ⟨tells.spent, List.forall_mem_singleton.mpr tells.now⟩

/-- **Hooks run in turn.** Whatever calls a host was built by, and whatever is done with it from then
on, by those who dispose it, drop it or have its lifetime: a diary can be kept of it, and shows that
hooks were accepted only while the host ran, and started in the order in which they were accepted,
while it was about to stop. A host that nobody tried to dispose has started none. -/
theorem starts_in_turn (guarded : stage.Guarded lifetime provider) {clock : Nat}
    {calls : List (BuilderCall E V F H)} {mint : BuiltIn → V} {log : Nat} {env : E}
    {p : Blueprint V F H W} (built : Builder.buildAfter clock calls mint log lifetime env = .ok p)
    {s : σ} (begun : (stage.lifetime lifetime).get s = p.lifetime)
    (offers : (stage.provider provider).get s = .ofRegistry p.registry) {actions : List (Action σ H)}
    (allowed : ∀ action ∈ actions, action.Allowed stage lifetime provider) {t : Tenure (Diary σ H) H}
    (noted : (Tenure.built p.settings (calls.filterMap BuilderCall.hook?) provider lifetime
      (Diary.opened s)).run stage.diary (actions.map Action.jotted) = t) :
    t.plain = (Tenure.built p.settings (calls.filterMap BuilderCall.hook?) provider lifetime s).run
      stage actions ∧
    t.InTurn stage (calls.filterMap BuilderCall.hook?) ∧
    ((∀ acts, Action.dispose acts ∉ actions) → t.starts = []) := by
  have made := Builder.lifetime_of_buildAfter built
  have opened : stage.Told lifetime provider p.registry.size .running (Diary.opened s) := by
    refine ⟨⟨?_, ?_, ?_⟩, Diary.tells_opened ?_⟩
    · show ((stage.lifetime lifetime).get s).phase = .running
      rw [begun, made]
    · show ((stage.provider provider).get s).isReleased = false
      rw [offers]
      rfl
    · show ((stage.provider provider).get s).size = _
      rw [offers]
      rfl
    · rw [begun, made]
      exact fun stopping => absurd rfl stopping
  have holds : (Tenure.built p.settings (calls.filterMap BuilderCall.hook?) provider lifetime
      (Diary.opened s)).Holds stage lifetime provider p.registry.size
        (calls.filterMap BuilderCall.hook?) := by
    refine ⟨⟨rfl, rfl, .opened rfl rfl rfl rfl opened⟩, List.prefix_refl _, List.nil_prefix,
      fun x hx => absurd hx List.not_mem_nil, fun _ => ⟨?_, rfl⟩, fun _ => rfl,
      fun _ stopping => absurd opened.1.phase stopping⟩
    show ((stage.lifetime lifetime).get s).hooks = _
    rw [begun, made]
    rfl
  have after := holds.run guarded allowed
  subst noted
  refine ⟨plain_run _ actions, after.inTurn guarded, fun undisposed => after.untried ?_⟩
  refine (endings_run _ fun acts listed => ?_).trans rfl
  obtain ⟨action, hact, same⟩ := List.mem_map.mp listed
  cases action with
  | dispose acts' => exact undisposed acts' hact
  | register _ | drop | meanwhile _ => cases same

end

end Tenure

/-! ## A host that is disposed twice -/

namespace Rehearsal

/-- A builder is given one hook, which rests for a second. -/
def singly : List (BuilderCall Unit String Unit Job) :=
  [.hook ⟨"flush", .rest (.ofSeconds 1) (.ok ())⟩]

/-- What is built, with nothing on offer but the services that every host has of its own. -/
def closing : Blueprint String Unit Job Unit :=
  { hall with
    registry := ⟨hall.registry.entries.tail⟩
    lifetime := ⟨.running, [⟨"flush", .rest (.ofSeconds 1) (.ok ())⟩], []⟩ }

/-- The host in its surroundings. -/
def atClose : Scene := ⟨.start, [], closing.lifetime, .ofRegistry closing.registry⟩

/-- Two more hooks are registered. The first disposal is given up while the first of these is running,
and the second one returns; in between somebody comes too late. Then the host is dropped. -/
def farewell : List (Tenure.Action Scene Job) :=
  [.register ⟨"stuck", .never⟩, .meanwhile second, .register ⟨"close", .never⟩,
    .dispose [second, second], .register ⟨"late", .never⟩, .dispose [], .drop]

/-- The hooks of the host, with a diary that is kept from the time when it was built. -/
def parting (actions : List (Tenure.Action Scene Job)) : Tenure (Diary Scene Job) Job :=
  (Tenure.built closing.settings (singly.filterMap BuilderCall.hook?) 0 0
    (Diary.opened atClose)).run stage.diary (actions.map Tenure.Action.jotted)

theorem allowed_farewell : ∀ action ∈ farewell, action.Allowed stage 0 0 := by
  have untouched : ∀ s : Scene,
      ((stage.lifetime 0).get (second s).2).hooks = ((stage.lifetime 0).get s).hooks := fun _ => rfl
  simp [farewell, Tenure.Action.Allowed, minds_second, untouched]

theorem farewell_in_turn :
    (∀ action ∈ farewell, action.Allowed stage 0 0) ∧
    (parting farewell).InTurn stage [⟨"flush", .rest (.ofSeconds 1) (.ok ())⟩] ∧
    (parting farewell).accepted.map Hook.label = ["flush", "stuck", "close"] ∧
    (parting farewell).starts.map (·.1.label) = ["flush", "stuck"] := by
  have built : Builder.buildAfter 1 singly (fun _ => "own") 0 0 () = .ok closing := rfl
  obtain ⟨-, in_turn, -⟩ := Tenure.starts_in_turn (sound host).guarded built (s := atClose) rfl rfl
    allowed_farewell rfl
  exact ⟨allowed_farewell, in_turn, by decide +kernel, by decide +kernel⟩

/-- A host that is dropped while it runs has not been about to stop. -/
example : ((parting [.drop]).history stage).map Lifetime.phase =
    [.running, .running, .stopped, .stopped, .stopped, .stopped] := by
  decide +kernel

end Rehearsal

end HostBench
