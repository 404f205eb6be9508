/-
  Hosts between operations, and in the middle of them. A host is open until a disposal returns or it
  is dropped: it runs, has no report, and its services are there. Then it is closed: it has stopped for
  good, its services are released, and every disposal gives the report of the first one that returned
  (`Estate.in_order`).

  Others only use the lifetime and the provider of a host (`HostStage.Guarded`), and that does not take
  it from one era to another (`HostStage.In.uses`). So whatever is done, the services are never released
  before the phase is the last one, and that holds of every state that an operation passes through.
-/
import HostBench.Proofs.Disposal.Estate

namespace HostBench

variable {σ H ρ V F W α : Type}

/-! ## What others leave as it is -/

theorem Provider.keep_same {p p' : Provider V F} {key : Capability} {v kept : V}
    (done : p.keep key v = .ok (p', kept)) : p'.isReleased = p.isReleased ∧ p'.size = p.size := by
  obtain ⟨services⟩ := p
  cases services with
  | none => cases done
  | some s =>
    cases known : key.lookup s.singletons with
    | some old =>
      simp only [keep, known] at done
      cases done
      exact ⟨rfl, rfl⟩
    | none =>
      simp only [keep, known] at done
      cases done
      exact ⟨rfl, rfl⟩

theorem Provider.Uses.same {p p' : Provider V F} (uses : p.Uses p') :
    p'.isReleased = p.isReleased ∧ p'.size = p.size := by
  induction uses with
  | refl => exact ⟨rfl, rfl⟩
  | tail _ last ih =>
    cases last with
    | keep _ _ done => exact ⟨(keep_same done).1.trans ih.1, (keep_same done).2.trans ih.2⟩

/-- Others have used the lifetime and the provider of a host, and nothing else was done to them. -/
structure HostStage.Uses (stage : HostStage σ H ρ V F W) (lifetime provider : Nat) (s s' : σ) : Prop where
  lifetime : Lifetime.Uses ((stage.lifetime lifetime).get s) ((stage.lifetime lifetime).get s')
  provider : Provider.Uses ((stage.provider provider).get s) ((stage.provider provider).get s')

/-- Whatever state it is done in, it only uses the lifetime and the provider of a host. -/
def HostStage.Minds (stage : HostStage σ H ρ V F W) (lifetime provider : Nat) (m : StateM σ α) : Prop :=
  ∀ s, stage.Uses lifetime provider s (m s).2

/-- Everything that a stage calls only uses the lifetime and the provider of a host, and those are
kept apart from each other and from the timer. -/
structure HostStage.Guarded (stage : HostStage σ H ρ V F W) (lifetime provider : Nat) : Prop where
  lifetime_set : ∀ l s, (stage.lifetime lifetime).get ((stage.lifetime lifetime).set l s) = l
  lifetime_timer : ∀ t s,
    (stage.lifetime lifetime).get (stage.timer.set t s) = (stage.lifetime lifetime).get s
  lifetime_provider : ∀ p s,
    (stage.lifetime lifetime).get ((stage.provider provider).set p s) = (stage.lifetime lifetime).get s
  provider_set : ∀ p s, (stage.provider provider).get ((stage.provider provider).set p s) = p
  provider_timer : ∀ t s,
    (stage.provider provider).get (stage.timer.set t s) = (stage.provider provider).get s
  provider_lifetime : ∀ l s,
    (stage.provider provider).get ((stage.lifetime lifetime).set l s) = (stage.provider provider).get s
  poll : ∀ r, stage.Minds lifetime provider (stage.poll r)
  abandon : ∀ r, stage.Minds lifetime provider (stage.abandon r)
  report : ∀ e, stage.Minds lifetime provider (stage.report e)
  wake : ∀ w, stage.Minds lifetime provider (stage.wake w)
  discard : stage.Minds lifetime provider stage.discard

theorem HostStage.Sound.guarded {stage : HostStage σ H ρ V F W} {h : Host} {theirs : σ → Nat → Prop}
    (sound : stage.Sound h theirs) : stage.Guarded h.lifetime h.provider where
  lifetime_set := sound.lifetime_set
  lifetime_timer := sound.lifetime_timer
  lifetime_provider := sound.lifetime_provider
  provider_set := sound.provider_set
  provider_timer := sound.provider_timer
  provider_lifetime := sound.provider_lifetime
  poll r s := ⟨(sound.poll r s).lifetime, (sound.poll r s).provider⟩
  abandon r s := ⟨(sound.abandon r s).lifetime, (sound.abandon r s).provider⟩
  report e s := ⟨(sound.report e s).lifetime, (sound.report e s).provider⟩
  wake w s := ⟨(sound.wake w s).lifetime, (sound.wake w s).provider⟩
  discard s := ⟨(sound.discard s).lifetime, (sound.discard s).provider⟩

/-! ## The eras of a guarded host -/

/-- The phase of the lifetime in an era. -/
def Era.phase : Era → Phase
  | .running => .running
  | .stopping => .stopping
  | .stopped | .released => .stopped

/-- The services are released. -/
def Era.isReleased : Era → Bool
  | .released => true
  | _ => false

/-- How many of `n` services are there in an era. -/
def Era.size (n : Nat) (era : Era) : Nat := if era.isReleased then 0 else n

/-- The lifetime and the provider of a host with `n` services are in an era. -/
structure HostStage.In (stage : HostStage σ H ρ V F W) (lifetime provider n : Nat) (era : Era) (s : σ) :
    Prop where
  phase : ((stage.lifetime lifetime).get s).phase = era.phase
  released : ((stage.provider provider).get s).isReleased = era.isReleased
  size : ((stage.provider provider).get s).size = era.size n

section
variable {stage : HostStage σ H ρ V F W} {lifetime provider n : Nat} {era : Era} {s s' : σ}

theorem HostStage.In.uses (stands : stage.In lifetime provider n era s)
    (uses : stage.Uses lifetime provider s s') : stage.In lifetime provider n era s' where
  phase := (Lifetime.Uses.phase_eq uses.lifetime).trans stands.phase
  released := (Provider.Uses.same uses.provider).1.trans stands.released
  size := (Provider.Uses.same uses.provider).2.trans stands.size

/-- The services are released in the last era only, and in that the phase is the last one. -/
theorem HostStage.In.stopped_of_released (stands : stage.In lifetime provider n era s)
    (released : ((stage.provider provider).get s).isReleased = true) :
    ((stage.lifetime lifetime).get s).phase = .stopped := by
  rw [stands.released] at released
  rw [stands.phase]
  cases era with
  | released => rfl
  | running | stopping | stopped => cases released

namespace HostStage.Guarded

theorem in_lifetime (guarded : stage.Guarded lifetime provider) {l : Lifetime H W}
    (stands : stage.In lifetime provider n era s) {era' : Era} (phase : l.phase = era'.phase)
    (same : era'.isReleased = era.isReleased) :
    stage.In lifetime provider n era' ((stage.lifetime lifetime).set l s) where
  phase := by rw [guarded.lifetime_set, phase]
  released := by rw [guarded.provider_lifetime, stands.released, same]
  size := by rw [guarded.provider_lifetime, stands.size, Era.size, Era.size, same]

theorem in_timer (guarded : stage.Guarded lifetime provider)
    (stands : stage.In lifetime provider n era s) (t : Timer W) :
    stage.In lifetime provider n era (stage.timer.set t s) where
  phase := by rw [guarded.lifetime_timer, stands.phase]
  released := by rw [guarded.provider_timer, stands.released]
  size := by rw [guarded.provider_timer, stands.size]

theorem respects (guarded : stage.Guarded lifetime provider) (n : Nat) (era : Era) :
    stage.Respects lifetime provider (stage.In lifetime provider n era) where
  timer t s stands := guarded.in_timer stands t
  report e s stands := stands.uses (guarded.report e s)
  poll r s stands := stands.uses (guarded.poll r s)
  abandon r s stands := stands.uses (guarded.abandon r s)
  wake w s stands := stands.uses (guarded.wake w s)
  discard s stands := stands.uses (guarded.discard s)
  register s hook l stands accepted := by
    obtain ⟨-, rfl⟩ := Lifetime.register_eq_ok_iff.mp accepted
    exact guarded.in_lifetime stands stands.phase rfl
  keep s key v p kept stands done := by
    obtain ⟨released, size⟩ := Provider.keep_same done
    exact {
      phase := by rw [guarded.lifetime_provider, stands.phase]
      released := by rw [guarded.provider_set, released, stands.released]
      size := by rw [guarded.provider_set, size, stands.size] }

/-- A host that others only use goes from era to era by its own doing. -/
theorem unfolds (guarded : stage.Guarded lifetime provider) (n : Nat) :
    stage.Unfolds lifetime provider (stage.Minds lifetime provider)
      (stage.In lifetime provider n) n where
  respects := guarded.respects n
  around m minds era s stands := stands.uses (minds s)
  begins s stands :=
    guarded.in_lifetime stands (Lifetime.beginStopping_of_running stands.phase).1 rfl
  begun s stands := by
    have stopping : ((stage.lifetime lifetime).get s).phase ≠ .running := by
      rw [stands.phase]
      decide
    have same : ((stage.lifetime lifetime).get s).beginStopping =
        ((stage.lifetime lifetime).get s, [], []) := if_neg stopping
    rw [same]
    exact ⟨guarded.in_lifetime stands stands.phase rfl, rfl⟩
  stops s := by
    rintro (running | stopping)
    · exact guarded.in_lifetime running rfl rfl
    · exact guarded.in_lifetime stopping rfl rfl
  releases s stands := ⟨stands.size, {
    phase := by
      rw [guarded.lifetime_provider, stands.phase]
      rfl
    released := by
      rw [guarded.provider_set]
      rfl
    size := by
      rw [guarded.provider_set]
      rfl }⟩

end HostStage.Guarded

end

/-! ## Open and closed -/

namespace Estate

/-- The host runs with its `n` services, and no disposal has returned. If one was cut short, the host
is still about to stop. -/
structure Open (stage : HostStage σ H ρ V F W) (n : Nat) (e : Estate σ) : Prop where
  kept : e.dropped = false
  state : e.host.state = .running
  unreported : e.host.report = none
  services : e.host.services = .ok e.host.provider
  lifetime : e.host.lifetimeOf = .ok e.host.lifetime
  live : ((stage.provider e.host.provider).get e.state).isReleased = false
  size : ((stage.provider e.host.provider).get e.state).size = n
  phase : ((stage.lifetime e.host.lifetime).get e.state).phase =
    if e.endings.isEmpty then .running else .stopping
  cut : e.reports = []

/-- The host has stopped, and a disposal has returned this report, which is that of every later one.
All of the `n` services are released. -/
structure Closed (stage : HostStage σ H ρ V F W) (n : Nat) (report : ShutdownReport) (e : Estate σ) :
    Prop where
  kept : e.dropped = false
  state : e.host.state = .stopped
  reported : e.host.report = some report
  services : e.host.services = .error ⟨"services"⟩
  lifetime : e.host.lifetimeOf = .error ⟨"lifetime"⟩
  released : ((stage.provider e.host.provider).get e.state).isReleased = true
  counted : report.released = n
  phase : ((stage.lifetime e.host.lifetime).get e.state).phase = .stopped
  first : e.reports.head? = some report
  same : ∀ r ∈ e.reports, r = report

/-- The host was dropped, and its services are released. -/
structure Gone (stage : HostStage σ H ρ V F W) (e : Estate σ) : Prop where
  dropped : e.dropped = true
  released : ((stage.provider e.host.provider).get e.state).isReleased = true
  phase : ((stage.lifetime e.host.lifetime).get e.state).phase = .stopped

section
variable {stage : HostStage σ H ρ V F W} {lifetime provider n : Nat} {e e' : Estate σ}

theorem isReleased_era (e : Estate σ) : e.era.isReleased = false := by
  unfold era
  split <;> rfl

theorem Stands.cases (stands : e.Stands (stage.In lifetime provider n) lifetime provider n) :
    e.Open stage n ∨ (∃ report, e.Closed stage n report) ∨ e.Gone stage := by
  obtain ⟨rfl, rfl, agrees⟩ := stands
  cases agrees with
  | opened kept running unreported cut stands =>
    have unstopped : e.host.state ≠ .stopped := by rw [running]; decide
    refine .inl ⟨kept, running, unreported, ?_, ?_, ?_, ?_, ?_, cut⟩
    · rw [Host.services, Host.ensureRunning, if_neg unstopped]
      rfl
    · rw [Host.lifetimeOf, Host.ensureRunning, if_neg unstopped]
      rfl
    · rw [stands.released, isReleased_era]
    · rw [stands.size, Era.size, isReleased_era]
      rfl
    · rw [stands.phase, era]
      split <;> rfl
  | @closed report kept stopped reported counted first same stands =>
    refine .inr (.inl ⟨report, kept, stopped, reported, ?_, ?_, stands.released, counted, stands.phase,
      first, same⟩)
    · rw [Host.services, Host.ensureRunning, if_pos stopped]
      rfl
    · rw [Host.lifetimeOf, Host.ensureRunning, if_pos stopped]
      rfl
  | gone dropped stands => exact .inr (.inr ⟨dropped, stands.released, stands.phase⟩)

/-- A host is open just until a disposal returns or it is dropped. -/
theorem Stands.open_iff (stands : e.Stands (stage.In lifetime provider n) lifetime provider n) :
    e.Open stage n ↔ e.dropped = false ∧ e.reports = [] := by
  refine ⟨fun opened => ⟨opened.kept, opened.cut⟩, ?_⟩
  rintro ⟨kept, cut⟩
  rcases stands.cases with opened | ⟨report, closed⟩ | gone
  · exact opened
  · have first := closed.first
    rw [cut] at first
    cases first
  · rw [gone.dropped] at kept
    cases kept

theorem Stands.closed_of_reports {report : ShutdownReport}
    (stands : e.Stands (stage.In lifetime provider n) lifetime provider n) (kept : e.dropped = false)
    (first : e.reports.head? = some report) : e.Closed stage n report := by
  rcases stands.cases with opened | ⟨report', closed⟩ | gone
  · rw [opened.cut] at first
    cases first
  · cases closed.first.symm.trans first
    exact closed
  · rw [gone.dropped] at kept
    cases kept

theorem Stands.gone_of_dropped (stands : e.Stands (stage.In lifetime provider n) lifetime provider n)
    (dropped : e.dropped = true) : e.Gone stage := by
  rcases stands.cases with opened | ⟨report, closed⟩ | gone
  · rw [opened.kept] at dropped
    cases dropped
  · rw [closed.kept] at dropped
    cases dropped
  · exact gone

end

/-! ## Every host, whatever is done with it -/

/-- How it stands with a host between two operations, and what the next ones come to. -/
structure InOrder [BEq W] (stage : HostStage σ H ρ V F W) (n : Nat) (e : Estate σ) : Prop where
  stands : e.Open stage n ∨ (∃ report, e.Closed stage n report) ∨ e.Gone stage
  /-- Nothing closes a host but a disposal that returns and a drop. -/
  open_iff : e.Open stage n ↔ e.dropped = false ∧ e.reports = []
  /-- A disposal of an open host closes it if it returns. If it is cut short the host stays open, and
  the next one returns. -/
  disposal : e.Open stage n → ∀ acts : List (StateM σ Unit),
    (∀ m ∈ acts, stage.Minds e.host.lifetime e.host.provider m) →
      (∀ report, (e.host.attempt stage acts e.state).1.report? = some report →
        (e.attempt stage acts).Closed stage n report) ∧
      ((e.host.attempt stage acts e.state).1.report? = none →
        (e.attempt stage acts).Open stage n ∧ e.endings = [])
  drop : e.dropped = false → (e.drop stage).Gone stage
  /-- A disposal of a closed host is reported to those who listen, and does nothing else. -/
  again : ∀ report, e.Closed stage n report → ∀ acts, e.host.attempt stage acts e.state =
    (.returned e.host report, (stage.report (.alreadyDisposed e.host.settings.hostName) e.state).2)
  /-- A host that is closed never opens again, and keeps its report. -/
  lasts : ∀ e', Run stage (stage.Minds e.host.lifetime e.host.provider) e e' →
    (∀ report, e.Closed stage n report → e'.Closed stage n report ∨ e'.Gone stage) ∧
      (e.Gone stage → e'.Gone stage)

section
variable [BEq W] {stage : HostStage σ H ρ V F W} {lifetime provider n : Nat} {e e' : Estate σ}

theorem Run.lasts (guarded : stage.Guarded lifetime provider)
    (run : Run stage (stage.Minds lifetime provider) e e')
    (stands : e.Stands (stage.In lifetime provider n) lifetime provider n) :
    (∀ report, e.Closed stage n report → e'.Closed stage n report ∨ e'.Gone stage) ∧
      (e.Gone stage → e'.Gone stage) := by
  have stands' := run.stands (guarded.unfolds n) stands
  obtain ⟨⟨later, endings⟩, dropped⟩ := run.onward
  refine ⟨fun report closed => ?_, fun gone => stands'.gone_of_dropped (dropped gone.dropped)⟩
  cases kept : e'.dropped with
  | true => exact .inr (stands'.gone_of_dropped kept)
  | false =>
    refine .inl (stands'.closed_of_reports kept ?_)
    rw [reports, ← endings, List.filterMap_append, List.head?_append]
    have first := closed.first
    rw [reports] at first
    rw [first]
    rfl

/-- Where an attempt was cut short, the next one finds nothing to wait for. -/
theorem Open.returns (guarded : stage.Guarded e.host.lifetime e.host.provider)
    (opened : e.Open stage n) (tried : e.endings ≠ []) (acts : List (StateM σ Unit)) :
    (e.host.attempt stage acts e.state).1.report? ≠ none := by
  have phase := opened.phase
  rw [if_neg (by rwa [List.isEmpty_iff])] at phase
  have stands : stage.In e.host.lifetime e.host.provider n .stopping e.state :=
    ⟨phase, opened.live, opened.size⟩
  obtain ⟨h', report, returned⟩ :=
    Host.attempt_again (guarded.unfolds n) opened.unreported acts stands
  rw [returned]
  exact Option.some_ne_none report

theorem Stands.inOrder (guarded : stage.Guarded lifetime provider)
    (stands : e.Stands (stage.In lifetime provider n) lifetime provider n) :
    e.InOrder stage n where
  stands := stands.cases
  open_iff := stands.open_iff
  disposal opened acts allowed := by
    obtain ⟨rfl, rfl, agrees⟩ := id stands
    have after := stands.attempt (guarded.unfolds n) opened.kept allowed
    cases attempted : e.host.attempt stage acts e.state with
    | mk ending s =>
      have reports := reports_attempt attempted
      rw [opened.cut, List.nil_append] at reports
      have kept : (e.attempt stage acts).dropped = false := by
        rw [attempt_eq attempted]
        exact opened.kept
      refine ⟨fun report returned => after.closed_of_reports kept ?_, fun cut => ?_⟩
      · rw [reports, returned]
        rfl
      · rw [cut] at reports
        refine ⟨after.open_iff.mpr ⟨kept, reports⟩, ?_⟩
        cases tried : e.endings with
        | nil => rfl
        | cons first others =>
          have returns := opened.returns guarded (tried ▸ List.cons_ne_nil _ _) acts
          rw [attempted] at returns
          exact absurd cut returns
  drop kept := by
    have after := stands.drop (guarded.unfolds n) kept
    exact after.gone_of_dropped rfl
  again report closed acts := Host.attempt_of_reported closed.reported acts e.state
  lasts e' run := by
    obtain ⟨rfl, rfl, -⟩ := id stands
    exact run.lasts guarded stands

theorem Agrees.exists_era {C : Era → σ → Prop} (agrees : e.Agrees C n) : ∃ era, C era e.state := by
  cases agrees with
  | opened _ _ _ _ stands => exact ⟨_, stands⟩
  | closed _ _ _ _ _ _ stands => exact ⟨_, stands⟩
  | gone _ stands => exact ⟨_, stands⟩

/-- Whatever is done with a host from its build on, it stands in order after that. The run can be
watched, and at no time that is seen then, nor when others have used the host since, are the services
released before the phase of the host is the last one. -/
theorem in_order (guarded : stage.Guarded lifetime provider) {settings : Settings} {s : σ}
    {r : Registry V F} (running : ((stage.lifetime lifetime).get s).phase = .running)
    (offers : (stage.provider provider).get s = .ofRegistry r)
    (run : Run stage (stage.Minds lifetime provider) (built settings provider lifetime s) e) :
    e.InOrder stage r.size ∧
    (∃ seen, Run stage.watched (Watches (stage.Minds lifetime provider))
      ((built settings provider lifetime s).watched [s]) (e.watched seen)) ∧
    ∀ seen, Run stage.watched (Watches (stage.Minds lifetime provider))
        ((built settings provider lifetime s).watched [s]) (e.watched seen) →
      ∀ u ∈ seen, ∀ t, stage.Uses lifetime provider u t →
        ((stage.provider provider).get t).isReleased = true →
          ((stage.lifetime lifetime).get t).phase = .stopped := by
  have begins : stage.In lifetime provider r.size .running s :=
    ⟨running, by rw [offers]; rfl, by rw [offers]; rfl⟩
  have unfolds := guarded.unfolds r.size
  refine ⟨?_, run.watched [s], ?_⟩
  · have stands : (built settings provider lifetime s).Stands (stage.In lifetime provider r.size)
        lifetime provider r.size := ⟨rfl, rfl, .opened rfl rfl rfl rfl begins⟩
    exact (run.stands unfolds stands).inOrder guarded
  · intro seen watched u hu t uses released
    have seen_first : Watched.In (stage.In lifetime provider r.size) .running ⟨s, [s]⟩ := by
      refine ⟨begins, fun v hv => ?_⟩
      rw [List.mem_singleton.mp hv]
      exact ⟨.running, begins⟩
    have stands : ((built settings provider lifetime s).watched [s]).Stands
        (Watched.In (stage.In lifetime provider r.size)) lifetime provider r.size :=
      ⟨rfl, rfl, .opened rfl rfl rfl rfl seen_first⟩
    obtain ⟨era, -, all⟩ := (watched.stands unfolds.watched stands).agrees.exists_era
    obtain ⟨era', stands'⟩ := all u hu
    exact (stands'.uses uses).stopped_of_released released

end

end Estate

/-! ## A host that is disposed twice -/

namespace Rehearsal

theorem minds_second : stage.Minds 0 0 second :=
  fun s => ⟨((passes_second host).moves s).lifetime, ((passes_second host).moves s).provider⟩

/-- A host with one service and one hook, which never ends. -/
def stuck : Scene := { alone .never with provider := .ofRegistry ⟨[(⟨"greeting"⟩, .fixed "hello")]⟩ }

/-- The host after an attempt to dispose it that is given up after a second. -/
def cutShort : Estate Scene := (Estate.built .default 0 0 stuck).attempt stage [second]

theorem run_cutShort :
    Estate.Run stage (stage.Minds 0 0) (.built .default 0 0 stuck) cutShort := by
  refine .disposed _ rfl fun m hm => ?_
  rw [List.mem_singleton.mp hm]
  exact minds_second

/-- It is open and about to stop. The next attempt closes it, and a drop releases its service as
well. -/
theorem cutShort_in_order :
    cutShort.Open stage 1 ∧ cutShort.state.lifetime.phase = .stopping ∧
      (∃ report, (cutShort.attempt stage []).Closed stage 1 report) ∧
      (cutShort.drop stage).Gone stage := by
  obtain ⟨inOrder, -, -⟩ := Estate.in_order (sound host).guarded rfl rfl run_cutShort
  have opened : cutShort.Open stage 1 := inOrder.open_iff.mpr ⟨rfl, by decide +kernel⟩
  have returned : (cutShort.host.attempt stage [] cutShort.state).1.report? = some ⟨[], 1⟩ := by
    decide +kernel
  refine ⟨opened, by decide +kernel, ⟨⟨[], 1⟩, ?_⟩, inOrder.drop rfl⟩
  exact (inOrder.disposal opened [] fun m hm => absurd hm List.not_mem_nil).1 _ returned

end Rehearsal

end HostBench
