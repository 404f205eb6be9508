/-
  A host and the state around it, from the time at which it is built until it is dropped. Services are
  resolved, hooks are registered, attempts to dispose the host return or are cut short, and in the end
  it may be dropped; a factory may do any of that as well while it is called (`Estate.Run`).

  The host, the phase of its lifetime and the release of its services are kept in different places.
  `Run.stands` shows that they agree with each other after every operation, and `in_order` says what
  that comes to: the host is open until a disposal returns or it is dropped, and closed from then on.
  What lies in the middle of an operation is seen by watching it (`Run.watched`).
-/
import HostBench.Proofs.Disposal.Interrupted
import HostBench.Proofs.Disposal.Watched

namespace HostBench

variable {σ H ρ V F W α : Type}

/-! ## Estates -/

/-- A host and the state around it, how the attempts to dispose it have ended, and whether it was
dropped. -/
structure Estate (σ : Type) where
  state : σ
  host : Host
  endings : List Ending
  dropped : Bool

/-- A place of the state around a host. -/
def Place.ofEstate (p : Place σ α) : Place (Estate σ) α :=
  ⟨fun e => p.get e.state, fun a e => { e with state := p.set a e.state }⟩

namespace Estate

/-- A host that has just been built. -/
def built (settings : Settings) (provider lifetime : Nat) (s : σ) : Estate σ :=
  ⟨s, .new settings provider lifetime, [], false⟩

/-- Something is done to the state around the host. -/
def act (m : StateM σ Unit) (e : Estate σ) : Estate σ := { e with state := (m e.state).2 }

/-- An attempt to dispose the host, with what others do between two polls. -/
def attempt [BEq W] (stage : HostStage σ H ρ V F W) (acts : List (StateM σ Unit)) (e : Estate σ) :
    Estate σ :=
  let x := e.host.attempt stage acts e.state
  ⟨x.2, x.1.host e.host, e.endings ++ [x.1], e.dropped⟩

/-- The host is dropped. -/
def drop (stage : HostStage σ H ρ V F W) (e : Estate σ) : Estate σ :=
  { e with state := (e.host.drop stage e.state).2, dropped := true }

/-- Operations one after the other. While a factory is called, and when someone is told of a service
that was created, there may be others. -/
inductive Run [BEq W] (stage : HostStage σ H ρ V F W) (around : StateM σ Unit → Prop) :
    Estate σ → Estate σ → Prop
  | nothing (e : Estate σ) : Run stage around e e
  | followed {e e' e'' : Estate σ} (first : Run stage around e e') (second : Run stage around e' e'') :
      Run stage around e e''
  | acted (e : Estate σ) {m : StateM σ Unit} (allowed : around m) : Run stage around e (e.act m)
  | registered (e : Estate σ) {hook : Hook H} {l : Lifetime H W}
      (accepted : ((stage.lifetime e.host.lifetime).get e.state).register hook = .ok l) :
      Run stage around e ((stage.lifetime e.host.lifetime).ofEstate.set l e)
  | resolved (e : Estate σ) {make : F → StateM (Estate σ) (Except ResolveError V)}
      {created : Capability → ServiceLifetime → StateM (Estate σ) Unit}
      (makes : ∀ f e, Run stage around e (make f e).2)
      (tells : ∀ key lifetime e, Run stage around e (created key lifetime e).2) (key : Capability) :
      Run stage around e
        (Provider.resolve (stage.provider e.host.provider).ofEstate make created key e).2
  | disposed (e : Estate σ) (kept : e.dropped = false) {acts : List (StateM σ Unit)}
      (allowed : ∀ m ∈ acts, around m) : Run stage around e (e.attempt stage acts)
  | dropped (e : Estate σ) (kept : e.dropped = false) : Run stage around e (e.drop stage)

/-! ## The host and the state agree -/

/-- The era of a host that has not stopped: its hooks are taken by the first attempt to dispose it. -/
def era (e : Estate σ) : Era := if e.endings.isEmpty then .running else .stopping

/-- The reports that were returned, in order. -/
def reports (e : Estate σ) : List ShutdownReport := e.endings.filterMap Ending.report?

/-- The host agrees with the state around it. -/
inductive Agrees (C : Era → σ → Prop) (n : Nat) (e : Estate σ) : Prop
  | opened (kept : e.dropped = false) (running : e.host.state = .running)
      (unreported : e.host.report = none) (cut : e.reports = []) (stands : C e.era e.state)
  | closed {report : ShutdownReport} (kept : e.dropped = false) (stopped : e.host.state = .stopped)
      (reported : e.host.report = some report) (counted : report.released = n)
      (first : e.reports.head? = some report) (same : ∀ r ∈ e.reports, r = report)
      (stands : C .released e.state)
  | gone (dropped : e.dropped = true) (stands : C .released e.state)

/-- The host of an estate has its lifetime and its provider at certain places, and agrees with the
state around it. -/
structure Stands (C : Era → σ → Prop) (lifetime provider n : Nat) (e : Estate σ) : Prop where
  lifetime : e.host.lifetime = lifetime
  provider : e.host.provider = provider
  agrees : e.Agrees C n

section
variable {stage : HostStage σ H ρ V F W} {around : StateM σ Unit → Prop} {C : Era → σ → Prop}
  {lifetime provider n : Nat} {e e' : Estate σ}

theorem Agrees.mono {s : σ} (agrees : e.Agrees C n) (holds : ∀ era, C era e.state → C era s) :
    Agrees C n { e with state := s } := by
  cases agrees with
  | opened kept running unreported cut stands =>
    exact .opened kept running unreported cut (holds _ stands)
  | closed kept stopped reported counted first same stands =>
    exact .closed kept stopped reported counted first same (holds _ stands)
  | gone dropped stands => exact .gone dropped (holds _ stands)

theorem Stands.imp {C' : Era → σ → Prop} (stands : e.Stands C lifetime provider n)
    (holds : ∀ era s, C era s → C' era s) : e.Stands C' lifetime provider n := by
  refine ⟨stands.lifetime, stands.provider, ?_⟩
  cases stands.agrees with
  | opened kept running unreported cut stands =>
    exact .opened kept running unreported cut (holds _ _ stands)
  | closed kept stopped reported counted first same stands =>
    exact .closed kept stopped reported counted first same (holds _ _ stands)
  | gone dropped stands => exact .gone dropped (holds _ _ stands)

theorem Stands.mono {s : σ} (stands : e.Stands C lifetime provider n)
    (holds : ∀ era, C era e.state → C era s) :
    Stands C lifetime provider n { e with state := s } :=
  ⟨stands.lifetime, stands.provider, stands.agrees.mono holds⟩

theorem era_cases (stands : C e.era e.state) : C .running e.state ∨ C .stopping e.state := by
  unfold era at stands
  split at stands
  · exact .inl stands
  · exact .inr stands

theorem Stands.drop (unfolds : stage.Unfolds lifetime provider around C n)
    (stands : e.Stands C lifetime provider n) (kept : e.dropped = false) :
    (e.drop stage).Stands C lifetime provider n := by
  obtain ⟨rfl, rfl, agrees⟩ := stands
  refine ⟨rfl, rfl, .gone rfl ?_⟩
  cases agrees with
  | opened _ running _ _ stands =>
    have unstopped : e.host.state ≠ .stopped := by rw [running]; decide
    exact Host.ensures_drop unfolds unstopped e.state (era_cases stands)
  | closed _ stopped _ _ _ _ stands =>
    show C .released (e.host.drop stage e.state).2
    rw [Host.drop, if_pos stopped]
    exact stands
  | gone dropped _ =>
    rw [kept] at dropped
    cases dropped

variable [BEq W]

theorem attempt_eq {acts : List (StateM σ Unit)} {ending : Ending} {s : σ}
    (attempted : e.host.attempt stage acts e.state = (ending, s)) :
    e.attempt stage acts = ⟨s, ending.host e.host, e.endings ++ [ending], e.dropped⟩ := by
  unfold attempt
  rw [attempted]

theorem reports_attempt {acts : List (StateM σ Unit)} {ending : Ending} {s : σ}
    (attempted : e.host.attempt stage acts e.state = (ending, s)) :
    (e.attempt stage acts).reports = e.reports ++ ending.report?.toList := by
  rw [attempt_eq attempted, reports, List.filterMap_append]
  cases ending <;> rfl

/-- Attempts to dispose a host leave it and the state around it in agreement. -/
theorem Stands.attempt (unfolds : stage.Unfolds lifetime provider around C n)
    (stands : e.Stands C lifetime provider n) (kept : e.dropped = false)
    {acts : List (StateM σ Unit)} (allowed : ∀ m ∈ acts, around m) :
    (e.attempt stage acts).Stands C lifetime provider n := by
  obtain ⟨rfl, rfl, agrees⟩ := stands
  cases agrees with
  | gone dropped _ =>
    rw [kept] at dropped
    cases dropped
  | closed _ stopped reported counted first same stands =>
    have attempted : e.host.attempt stage acts e.state = _ :=
      Host.attempt_of_reported reported acts e.state
    have reports := reports_attempt attempted
    rw [attempt_eq attempted] at reports ⊢
    refine ⟨rfl, rfl, .closed kept stopped reported counted ?_ ?_
      ((unfolds.respects .released).report _ e.state stands)⟩
    · rw [reports, List.head?_append, first]
      rfl
    · intro r hr
      rw [reports] at hr
      exact (List.mem_append.mp hr).elim (same r) List.mem_singleton.mp
  | opened _ running unreported cut stands =>
    have ended := Host.ensures_attempt unfolds unreported allowed e.state (era_cases stands)
    cases attempted : e.host.attempt stage acts e.state with
    | mk ending s =>
      have reports := reports_attempt attempted
      rw [attempted] at ended
      rw [attempt_eq attempted] at reports ⊢
      rw [cut] at reports
      cases ending with
      | cut c =>
        refine ⟨rfl, rfl, .opened kept running unreported reports ?_⟩
        have tried : (e.endings ++ [Ending.cut c]).isEmpty = false := by simp
        rw [era, if_neg (by rw [tried]; decide)]
        exact ended
      | returned h' report =>
        obtain ⟨rfl, counted, released⟩ := ended
        refine ⟨rfl, rfl, .closed kept rfl rfl counted ?_ ?_ released⟩
        · rw [reports]
          rfl
        · intro r hr
          rw [reports] at hr
          exact List.mem_singleton.mp hr

/-- A host and the state around it agree after every operation, as they did when it was built. -/
theorem Run.stands (unfolds : stage.Unfolds lifetime provider around C n)
    (run : Run stage around e e') (stands : e.Stands C lifetime provider n) :
    e'.Stands C lifetime provider n := by
  induction run with
  | nothing e => exact stands
  | followed _ _ ih ih' => exact ih' (ih stands)
  | @acted e m allowed => exact stands.mono fun era => unfolds.around m allowed era e.state
  | @registered e hook l accepted =>
    obtain ⟨rfl, rfl, -⟩ := id stands
    exact stands.mono fun era holds => (unfolds.respects era).register _ hook l holds accepted
  | resolved e makes tells key ih ih' =>
    rw [stands.provider]
    refine keeps_resolve (fun f e => ih f e) (fun key lifetime e => ih' key lifetime e) ?_ key e stands
    intro e key v p kept stands done
    exact stands.mono fun era holds => (unfolds.respects era).keep e.state key v p kept holds done
  | disposed e kept allowed => exact stands.attempt unfolds kept allowed
  | dropped e kept => exact stands.drop unfolds kept

/-- Attempts are not forgotten, and a host that was dropped does not come back. -/
theorem Run.onward (run : Run stage around e e') :
    e.endings <+: e'.endings ∧ (e.dropped = true → e'.dropped = true) := by
  induction run with
  | nothing e => exact ⟨List.prefix_refl _, id⟩
  | followed _ _ ih ih' => exact ⟨ih.1.trans ih'.1, ih'.2 ∘ ih.2⟩
  | acted e _ => exact ⟨List.prefix_refl _, id⟩
  | registered e _ => exact ⟨List.prefix_refl _, id⟩
  | resolved e makes tells key ih ih' =>
    refine keeps_resolve (P := fun e' : Estate σ => e.endings <+: e'.endings ∧
      (e.dropped = true → e'.dropped = true)) ?_ ?_ ?_ key e ⟨List.prefix_refl _, id⟩
    · exact fun f e' before => ⟨before.1.trans (ih f e').1, (ih f e').2 ∘ before.2⟩
    · exact fun key lifetime e' before =>
        ⟨before.1.trans (ih' key lifetime e').1, (ih' key lifetime e').2 ∘ before.2⟩
    · exact fun _ _ _ _ _ before _ => before
  | disposed e _ _ => exact ⟨List.prefix_append _ _, id⟩
  | dropped e _ => exact ⟨List.prefix_refl _, fun _ => rfl⟩

end

/-! ## Estates that are watched -/

/-- An estate whose state is watched, with what was seen so far. -/
def watched (e : Estate σ) (seen : List σ) : Estate (Watched σ) :=
  ⟨⟨e.state, seen⟩, e.host, e.endings, e.dropped⟩

/-- An estate without what was seen of its state. -/
def unwatched (w : Estate (Watched σ)) : Estate σ := ⟨w.state.now, w.host, w.endings, w.dropped⟩

theorem along_unwatched (p : Place σ α) :
    p.watched.ofEstate.Along unwatched p.ofEstate :=
  ⟨fun _ => rfl, fun _ _ => rfl⟩

variable [BEq W] {stage : HostStage σ H ρ V F W} {around : StateM σ Unit → Prop} {e e' : Estate σ}

theorem unwatched_attempt (acts : List (StateM σ Unit)) (seen : List σ) :
    ((e.watched seen).attempt stage.watched (acts.map watch)).unwatched = e.attempt stage acts := by
  obtain ⟨answer, after⟩ := mirrors_attempt stage.along_watched e.host mirrors_watch acts
    ⟨e.state, seen⟩
  unfold Estate.attempt unwatched watched
  dsimp only
  rw [answer, after]

omit [BEq W] in
theorem unwatched_drop (seen : List σ) :
    ((e.watched seen).drop stage.watched).unwatched = e.drop stage := by
  obtain ⟨-, after⟩ := mirrors_drop stage.along_watched e.host ⟨e.state, seen⟩
  unfold Estate.drop unwatched watched
  dsimp only
  rw [after]

theorem Run.of_unwatched {w w' : Estate (Watched σ)} (run : Run stage.watched (Watches around) w w')
    (same : w'.unwatched = e') :
    ∃ seen, Run stage.watched (Watches around) w (e'.watched seen) := by
  subst same
  exact ⟨w'.state.seen, run⟩

/-- Every run can be watched, whatever was seen before. -/
theorem Run.watched (run : Run stage around e e') (seen : List σ) :
    ∃ seen', Run stage.watched (Watches around) (e.watched seen) (e'.watched seen') := by
  induction run generalizing seen with
  | nothing e => exact ⟨seen, .nothing _⟩
  | followed _ _ ih ih' =>
    obtain ⟨seen', first⟩ := ih seen
    obtain ⟨seen'', second⟩ := ih' seen'
    exact ⟨seen'', .followed first second⟩
  | @acted e m allowed =>
    have watches : Watches around (watch m) := ⟨m, allowed, rfl⟩
    exact (Run.acted (e.watched seen) watches).of_unwatched rfl
  | registered e accepted => exact (Run.registered (e.watched seen) accepted).of_unwatched rfl
  | @resolved e make created makes tells key ih ih' =>
    -- what a factory does is watched as well, with what was seen up to the time when it is called
    choose made mades using ih
    choose told tolds using ih'
    let make' : F → StateM (Estate (Watched σ)) (Except ResolveError V) := fun f w =>
      ((make f w.unwatched).1, (make f w.unwatched).2.watched (made f w.unwatched w.state.seen))
    let created' : Capability → ServiceLifetime → StateM (Estate (Watched σ)) Unit :=
      fun key lifetime w => ((), (created key lifetime w.unwatched).2.watched
        (told key lifetime w.unwatched w.state.seen))
    have makes' : ∀ f w, Run stage.watched (Watches around) w (make' f w).2 :=
      fun f w => mades f w.unwatched w.state.seen
    have tells' : ∀ key lifetime w, Run stage.watched (Watches around) w (created' key lifetime w).2 :=
      fun key lifetime w => tolds key lifetime w.unwatched w.state.seen
    have mirrors : ∀ f, Mirrors unwatched (make' f) (make f) := fun _ _ => ⟨rfl, rfl⟩
    have mirrors' : ∀ key lifetime, Mirrors unwatched (created' key lifetime) (created key lifetime) :=
      fun _ _ _ => ⟨rfl, rfl⟩
    exact (Run.resolved (e.watched seen) makes' tells' key).of_unwatched
      (mirrors_resolve (along_unwatched _) mirrors mirrors' key (e.watched seen)).2
  | @disposed e kept acts allowed =>
    have watches : ∀ m ∈ acts.map watch, Watches around m := by
      intro m hm
      obtain ⟨act, hact, rfl⟩ := List.mem_map.mp hm
      exact ⟨act, allowed act hact, rfl⟩
    exact (Run.disposed (e.watched seen) kept watches).of_unwatched (unwatched_attempt acts seen)
  | dropped e kept => exact (Run.dropped (e.watched seen) kept).of_unwatched (unwatched_drop seen)

end Estate

end HostBench
