/-
  Disposals that are cut short and tried again. A host hands over its hooks when it first begins to
  stop, and keeps nothing of them until it has a report. An attempt that is cut short takes them with
  it, so the next one finds none and reports that all is well.

  `Career` tells the life of a host from its build on: the hooks that were accepted and the attempts to
  dispose it. `Career.standing` is the invariant that carries it, and `report_complete_iff` says which
  reports are complete: those before which no attempt was cut short.
-/
import HostBench.Builder
import HostBench.Proofs.Disposal.Keeping
import HostBench.Proofs.Disposal.Rehearsal

namespace HostBench

section
variable {σ H ρ V F W : Type} {stage : HostStage σ H ρ V F W} {h h' : Host} {s s' t : σ}
  {lifetime provider : Nat}

/-! ## What is done to the lifetime meanwhile -/

/-- Everything that a stage calls does with the lifetime only what others may, and the lifetime does
not change with the timer or the provider. -/
structure HostStage.Discreet (stage : HostStage σ H ρ V F W) (lifetime provider : Nat) : Prop where
  lifetime_set : ∀ l s, (stage.lifetime lifetime).get ((stage.lifetime lifetime).set l s) = l
  lifetime_timer : ∀ t s,
    (stage.lifetime lifetime).get (stage.timer.set t s) = (stage.lifetime lifetime).get s
  lifetime_provider : ∀ p s,
    (stage.lifetime lifetime).get ((stage.provider provider).set p s) = (stage.lifetime lifetime).get s
  poll : ∀ r s, Lifetime.Uses ((stage.lifetime lifetime).get s)
    ((stage.lifetime lifetime).get (stage.poll r s).2)
  abandon : ∀ r s, Lifetime.Uses ((stage.lifetime lifetime).get s)
    ((stage.lifetime lifetime).get (stage.abandon r s).2)
  report : ∀ e s, Lifetime.Uses ((stage.lifetime lifetime).get s)
    ((stage.lifetime lifetime).get (stage.report e s).2)
  wake : ∀ w s, Lifetime.Uses ((stage.lifetime lifetime).get s)
    ((stage.lifetime lifetime).get (stage.wake w s).2)
  discard : ∀ s, Lifetime.Uses ((stage.lifetime lifetime).get s)
    ((stage.lifetime lifetime).get (stage.discard s).2)

theorem HostStage.Sound.discreet {theirs : σ → Nat → Prop} (sound : stage.Sound h theirs) :
    stage.Discreet h.lifetime h.provider where
  lifetime_set := sound.lifetime_set
  lifetime_timer := sound.lifetime_timer
  lifetime_provider := sound.lifetime_provider
  poll r s := (sound.poll r s).lifetime
  abandon r s := (sound.abandon r s).lifetime
  report e s := (sound.report e s).lifetime
  wake w s := (sound.wake w s).lifetime
  discard s := (sound.discard s).lifetime

/-- Whatever state it is done in, it does with the lifetime only what others may. -/
def HostStage.Heeds (stage : HostStage σ H ρ V F W) (lifetime : Nat) (act : StateM σ Unit) : Prop :=
  ∀ s, Lifetime.Uses ((stage.lifetime lifetime).get s) ((stage.lifetime lifetime).get (act s).2)

namespace HostStage.Discreet

variable {host : String} {timeout : Duration}

/-- While hooks run, the lifetime stays one that others have made of what it was. -/
theorem respects (discreet : stage.Discreet lifetime provider) (l : Lifetime H W) :
    stage.toStage.Respects fun s => Lifetime.Uses l ((stage.lifetime lifetime).get s) where
  timer t s before := by
    rw [discreet.lifetime_timer]
    exact before
  report e s before := before.trans (discreet.report e s)
  poll r s before := before.trans (discreet.poll r s)
  abandon r s before := before.trans (discreet.abandon r s)

/-- From the first hook to the last, nothing else is done with the lifetime. -/
theorem queueCourse [BEq W] (discreet : stage.Discreet lifetime provider) {queue : List (Hook H)}
    {acts rest : List (StateM σ Unit)} {accounts : List (Account σ H)}
    {records : List ShutdownRecord} {cut : Option Cut}
    (heeds : ∀ act ∈ acts, stage.Heeds lifetime act)
    (course : QueueCourse stage.toStage host timeout queue s acts accounts records cut t rest) :
    Lifetime.Uses ((stage.lifetime lifetime).get s) ((stage.lifetime lifetime).get t) :=
  (course.keeps (discreet.respects _).composed
    (fun act hact u before => before.trans (heeds act hact u)) .refl).2

end HostStage.Discreet

/-- The lifetime has begun to stop and holds no hooks any more. -/
structure Lifetime.Closed (l : Lifetime H W) : Prop where
  stopping : l.phase ≠ .running
  no_hooks : l.hooks = []

theorem Lifetime.Uses.closed {l l' : Lifetime H W} (uses : Lifetime.Uses l l') (closed : l.Closed) :
    l'.Closed where
  stopping := by
    rw [Lifetime.Uses.phase_eq uses]
    exact closed.stopping
  no_hooks := (Lifetime.Uses.hooks_eq uses closed.stopping).trans closed.no_hooks

namespace HostStage.Discreet

theorem closed_wakes (discreet : stage.Discreet lifetime provider) (woken : List W)
    (closed : ((stage.lifetime lifetime).get s).Closed) :
    ((stage.lifetime lifetime).get ((woken.forM stage.wake : StateM σ PUnit) s).2).Closed :=
  keeps_forM (fun w s => Lifetime.Uses.closed (discreet.wake w s)) woken s closed

/-- A host that begins to stop hands over the hooks that it holds, and holds none after that. -/
theorem enterStopping (discreet : stage.Discreet h.lifetime h.provider) (s : σ) :
    (((stage.lifetime h.lifetime).get s).phase = .running →
      (h.enterStopping stage s).1 = ((stage.lifetime h.lifetime).get s).hooks ∧
        ((stage.lifetime h.lifetime).get (h.enterStopping stage s).2).Closed) ∧
    (((stage.lifetime h.lifetime).get s).Closed →
      (h.enterStopping stage s).1 = [] ∧
        ((stage.lifetime h.lifetime).get (h.enterStopping stage s).2).Closed) := by
  -- the lifetime is closed, then some are woken and the beginning is reported
  have closes : ((stage.lifetime h.lifetime).get s).beginStopping.1.Closed →
      ((stage.lifetime h.lifetime).get (h.enterStopping stage s).2).Closed := by
    intro closed
    refine Lifetime.Uses.closed (discreet.report _ _) (discreet.closed_wakes _ ?_)
    rw [discreet.lifetime_set]
    exact closed
  constructor
  · intro running
    obtain ⟨phase, none_left, handed⟩ := Lifetime.beginStopping_of_running running
    exact ⟨handed, closes ⟨by rw [phase]; decide, none_left⟩⟩
  · intro closed
    have same : ((stage.lifetime h.lifetime).get s).beginStopping =
        ((stage.lifetime h.lifetime).get s, [], []) := if_neg closed.stopping
    refine ⟨?_, closes ?_⟩
    · show ((stage.lifetime h.lifetime).get s).beginStopping.2.1 = []
      rw [same]
    · rw [same]
      exact closed

/-- A disposal leaves a closed lifetime closed in its end. -/
theorem finish (discreet : stage.Discreet h.lifetime h.provider) (records : List ShutdownRecord)
    (s : σ) : ((stage.lifetime h.lifetime).get (h.finish stage records s).2).Closed := by
  have stopped : ((stage.lifetime h.lifetime).get (h.markStopped stage s).2).Closed := by
    refine discreet.closed_wakes _ ?_
    rw [discreet.lifetime_set]
    exact ⟨by rintro ⟨⟩, rfl⟩
  have released : ((stage.lifetime h.lifetime).get
      (h.release stage (h.markStopped stage s).2).2).Closed := by
    refine Lifetime.Uses.closed (discreet.discard _) ?_
    rw [discreet.lifetime_provider]
    exact stopped
  exact Lifetime.Uses.closed (discreet.report _ _) released

end HostStage.Discreet

/-! ## What becomes of the hooks -/

/-- A record tells what became of a hook. -/
def Account.Recorded (a : Account σ H) (record : ShutdownRecord) : Prop :=
  record.label = a.hook.label ∧ a.fate.status? = some record.status

/-- A report is complete if each hook that was accepted has an account and a record, in the order of
registration, and if it is clean only where all of them have run to completion. -/
structure ShutdownReport.Complete (report : ShutdownReport) (accepted : List (Hook H))
    (accounts : List (Account σ H)) : Prop where
  hooks : accounts.map Account.hook = accepted
  records : List.Forall₂ Account.Recorded accounts report.records
  ran : report.isClean = true → ∀ a ∈ accounts, a.fate = .finished (.ok ())

theorem Fate.eq_finished_of_completed {fate : Fate} (completed : fate.status? = some .completed) :
    fate = .finished (.ok ()) := by
  cases fate with
  | finished result =>
    cases result with
    | ok u => rfl
    | error e => cases completed
  | timedOut => cases completed
  | cut c => cases completed

/-- Where all hooks have got their records, only those that have run to completion make a clean
report. -/
theorem ran_of_recorded {accounts : List (Account σ H)} {records : List ShutdownRecord}
    (recorded : List.Forall₂ Account.Recorded accounts records)
    (clean : records.all (·.status == .completed) = true) :
    ∀ a ∈ accounts, a.fate = .finished (.ok ()) := by
  induction recorded with
  | nil => exact fun a ha => absurd ha List.not_mem_nil
  | @cons a record accounts records first _ ih =>
    rw [List.all_cons, Bool.and_eq_true, beq_iff_eq] at clean
    intro b hb
    rcases List.mem_cons.mp hb with rfl | hb
    · exact Fate.eq_finished_of_completed (by rw [first.2, clean.1])
    · exact ih clean.2 b hb

namespace QueueCourse

variable [BEq W] {host : String} {timeout : Duration} {queue : List (Hook H)}
  {acts rest : List (StateM σ Unit)} {accounts : List (Account σ H)} {records : List ShutdownRecord}

/-- Where nothing cuts the disposal short, every hook of the queue gets its record. -/
theorem recorded (course : QueueCourse stage.toStage host timeout queue s acts accounts records none
      t rest) :
    accounts.map Account.hook = queue ∧ List.Forall₂ Account.Recorded accounts records := by
  generalize whole : none = cut at course
  induction course with
  | nothing => exact ⟨rfl, .nil⟩
  | next first _ ih =>
    obtain ⟨hooks, others⟩ := ih whole
    obtain ⟨label, status⟩ := first.record_of_ended
    exact ⟨by rw [List.map_cons, hooks], .cons ⟨label, status⟩ others⟩
  | cut first => cases whole

/-- Where a disposal is cut short, it is the last of the hooks started that does it. -/
theorem last_of_cut {c : Cut} (course : QueueCourse stage.toStage host timeout queue s acts accounts
      records (some c) t rest) :
    ∃ before last, accounts = before ++ [last] ∧ last.fate = .cut c := by
  generalize ended : some c = cut at course
  induction course with
  | nothing => cases ended
  | next _ _ ih =>
    obtain ⟨before, last, rfl, fate⟩ := ih ended
    exact ⟨_ :: before, last, rfl, fate⟩
  | cut first =>
    cases ended
    exact ⟨[], _, rfl, first.fate_of_cut⟩

/-- A disposal is cut short only by a hook. -/
theorem ne_nil_of_cut {c : Cut} (course : QueueCourse stage.toStage host timeout queue s acts accounts
      records (some c) t rest) : queue ≠ [] := by
  cases course with
  | next first others => exact List.cons_ne_nil _ _
  | cut first => exact List.cons_ne_nil _ _

end QueueCourse

/-! ## Attempts -/

/-- An attempt to dispose a host: the accounts of the hooks that it started, and how it ended. -/
structure Attempt (σ H : Type) where
  accounts : List (Account σ H)
  ending : Ending

/-- The attempt was cut short. -/
def Attempt.isCut (a : Attempt σ H) : Bool := a.ending.report?.isNone

/-- The host as an attempt leaves it. One that is cut short leaves it as it was. -/
def Ending.host (h : Host) : Ending → Host
  | .returned h' _ => h'
  | .cut _ => h

/-- What an attempt to dispose a host comes to, and the state after it. A host that has a report
starts no hooks. -/
inductive Host.Attempted [BEq W] (stage : HostStage σ H ρ V F W) (h : Host) (s : σ)
    (acts : List (StateM σ Unit)) : Attempt σ H → σ → Prop
  | fresh {accounts : List (Account σ H)} {records : List ShutdownRecord} {cut : Option Cut} {t : σ}
      {rest : List (StateM σ Unit)} (unreported : h.report = none)
      (course : QueueCourse stage.toStage h.settings.hostName h.settings.shutdownTimeout
        (h.enterStopping stage s).1 (h.enterStopping stage s).2 acts accounts records cut t rest) :
      Attempted stage h s acts ⟨accounts, (h.conclude stage records cut t).1⟩
        (h.conclude stage records cut t).2
  | again {report : ShutdownReport} (reported : h.report = some report) :
      Attempted stage h s acts ⟨[], .returned h report⟩
        (stage.report (.alreadyDisposed h.settings.hostName) s).2

namespace Host

variable [BEq W] {acts : List (StateM σ Unit)} {a : Attempt σ H}

theorem attempt_of_reported {report : ShutdownReport} (reported : h.report = some report)
    (acts : List (StateM σ Unit)) (s : σ) :
    h.attempt stage acts s =
      (.returned h report, (stage.report (.alreadyDisposed h.settings.hostName) s).2) := by
  have disposed : h.dispose stage s =
      (.done (h, report), (stage.report (.alreadyDisposed h.settings.hostName) s).2) := by
    unfold dispose
    rw [reported]
    rfl
  have entered : h.attempt stage acts s = follow stage acts (h.dispose stage s).1
    (h.dispose stage s).2 := rfl
  rw [entered, disposed]
  cases acts <;> rfl

theorem Attempted.attempt_eq (attempted : h.Attempted stage s acts a t) :
    h.attempt stage acts s = (a.ending, t) := by
  cases attempted with
  | fresh unreported course => exact attempt_of_course unreported course
  | again reported => exact attempt_of_reported reported acts s

/-- Every attempt comes to something. -/
theorem exists_attempted (stage : HostStage σ H ρ V F W) (h : Host) (acts : List (StateM σ Unit))
    (s : σ) : ∃ a t, h.Attempted stage s acts a t := by
  cases reported : h.report with
  | some report => exact ⟨_, _, .again reported⟩
  | none =>
    obtain ⟨_, _, _, _, _, course, -⟩ := exists_course stage reported acts s
    exact ⟨_, _, .fresh reported course⟩

/-- A host that has returned a report keeps it, and its place in the state stays the same. -/
theorem Attempted.host (attempted : h.Attempted stage s acts a t) :
    (a.ending.host h).lifetime = h.lifetime ∧ (a.ending.host h).provider = h.provider ∧
      ∀ h' report, a.ending = .returned h' report → h'.report = some report := by
  cases attempted with
  | again reported =>
    refine ⟨rfl, rfl, ?_⟩
    intro h' report returned
    cases returned
    exact reported
  | @fresh _ _ cut _ _ unreported course =>
    cases cut with
    | some c => exact ⟨rfl, rfl, fun h' report returned => by cases returned⟩
    | none =>
      refine ⟨rfl, rfl, ?_⟩
      intro h' report returned
      cases returned
      rfl

end Host

/-! ## The life of a host -/

/-- The life of a host from its build on: the host and the state as they are now, the hooks that were
accepted so far, in order, and the attempts to dispose it. -/
inductive Career [BEq W] (stage : HostStage σ H ρ V F W) :
    Host → σ → List (Hook H) → List (Attempt σ H) → Prop
  | built {h : Host} {s : σ} {b : Builder V F H} (unreported : h.report = none)
      (made : (stage.lifetime h.lifetime).get s = b.lifetimeOf) : Career stage h s b.hooks []
  | accepted {h : Host} {s t : σ} {hooks : List (Hook H)} {attempts : List (Attempt σ H)}
      {hook : Hook H} (career : Career stage h s hooks attempts)
      (registered : ((stage.lifetime h.lifetime).get s).register hook =
        .ok ((stage.lifetime h.lifetime).get t)) : Career stage h t (hooks ++ [hook]) attempts
  | passed {h : Host} {s t : σ} {hooks : List (Hook H)} {attempts : List (Attempt σ H)}
      (career : Career stage h s hooks attempts)
      (uses : Lifetime.Uses ((stage.lifetime h.lifetime).get s) ((stage.lifetime h.lifetime).get t))
      (none_accepted : ((stage.lifetime h.lifetime).get t).hooks =
        ((stage.lifetime h.lifetime).get s).hooks) : Career stage h t hooks attempts
  | attempted {h : Host} {s t : σ} {hooks : List (Hook H)} {attempts : List (Attempt σ H)}
      {acts : List (StateM σ Unit)} {a : Attempt σ H} (career : Career stage h s hooks attempts)
      (heeds : ∀ act ∈ acts, stage.Heeds h.lifetime act)
      (attempted : h.Attempted stage s acts a t) :
      Career stage (a.ending.host h) t hooks (attempts ++ [a])

/-- How a host stands with its hooks. -/
inductive Standing (stage : HostStage σ H ρ V F W) (h : Host) (s : σ) (hooks : List (Hook H)) :
    List (Attempt σ H) → Prop
  /-- It holds all that were accepted, and nobody has tried to dispose it. -/
  | untried (unreported : h.report = none)
      (running : ((stage.lifetime h.lifetime).get s).phase = .running)
      (held : ((stage.lifetime h.lifetime).get s).hooks = hooks) : Standing stage h s hooks []
  /-- The attempt that took the hooks has given a complete report. -/
  | told {attempts : List (Attempt σ H)} {report : ShutdownReport}
      (closed : ((stage.lifetime h.lifetime).get s).Closed) (reported : h.report = some report)
      (whole : ∀ a ∈ attempts, a.isCut = false)
      (complete : report.Complete hooks (attempts.flatMap Attempt.accounts)) :
      Standing stage h s hooks attempts
  /-- The attempt that took the hooks was cut short, and no report has any of them. -/
  | lost {attempts : List (Attempt σ H)} (closed : ((stage.lifetime h.lifetime).get s).Closed)
      (cut : ∃ a ∈ attempts, a.isCut = true) (accepted : hooks ≠ [])
      (empty : ∀ report, h.report = some report → report.records = []) :
      Standing stage h s hooks attempts

/-- What an attempt makes of a host that nobody has tried to dispose. -/
theorem Standing.of_first [BEq W] {acts rest : List (StateM σ Unit)} {hooks : List (Hook H)}
    {accounts : List (Account σ H)} {records : List ShutdownRecord} {cut : Option Cut}
    (discreet : stage.Discreet h.lifetime h.provider) (heeds : ∀ act ∈ acts, stage.Heeds h.lifetime act)
    (unreported : h.report = none)
    (closed : ((stage.lifetime h.lifetime).get (h.enterStopping stage s).2).Closed)
    (course : QueueCourse stage.toStage h.settings.hostName h.settings.shutdownTimeout hooks
      (h.enterStopping stage s).2 acts accounts records cut t rest) :
    Standing stage ((h.conclude stage records cut t).1.host h) (h.conclude stage records cut t).2 hooks
      [⟨accounts, (h.conclude stage records cut t).1⟩] := by
  cases cut with
  | some c =>
    refine .lost ?_ ⟨_, List.mem_singleton.mpr rfl, rfl⟩ course.ne_nil_of_cut ?_
    · exact Lifetime.Uses.closed (discreet.queueCourse heeds course) closed
    · intro report reported
      have none_yet : h.report = some report := reported
      rw [unreported] at none_yet
      cases none_yet
  | none =>
    obtain ⟨own, recorded⟩ := course.recorded
    refine .told (discreet.finish records t) rfl ?_ ⟨?_, ?_, ?_⟩
    · intro a ha
      rw [List.mem_singleton.mp ha]
      rfl
    · rw [List.flatMap_singleton]
      exact own
    · rw [List.flatMap_singleton]
      exact recorded
    · rw [List.flatMap_singleton]
      exact ran_of_recorded recorded

/-- What an attempt makes of a host whose hooks were lost. -/
theorem Standing.of_lost [BEq W] {acts : List (StateM σ Unit)} {hooks : List (Hook H)}
    {attempts : List (Attempt σ H)} {a : Attempt σ H}
    (discreet : stage.Discreet h.lifetime h.provider)
    (closed : ((stage.lifetime h.lifetime).get s).Closed) (cut : ∃ a ∈ attempts, a.isCut = true)
    (accepted : hooks ≠ []) (empty : ∀ report, h.report = some report → report.records = [])
    (attempted : h.Attempted stage s acts a t) :
    Standing stage (a.ending.host h) t hooks (attempts ++ [a]) := by
  have cut' : ∃ b ∈ attempts ++ [a], b.isCut = true := by
    obtain ⟨b, hb, is_cut⟩ := cut
    exact ⟨b, List.mem_append_left _ hb, is_cut⟩
  cases attempted with
  | again reported =>
    exact .lost (Lifetime.Uses.closed (discreet.report _ _) closed) cut' accepted empty
  | fresh unreported course =>
    obtain ⟨none_left, closed'⟩ := (discreet.enterStopping s).2 closed
    rw [none_left] at course
    -- without hooks nothing can cut the attempt short, and there is nothing to record
    cases course
    refine .lost (discreet.finish [] _) cut' accepted ?_
    intro report reported
    cases reported
    rfl

/-- A host stands with its hooks in one of three ways all its life. -/
theorem Career.standing [BEq W] {hooks : List (Hook H)} {attempts : List (Attempt σ H)}
    (career : Career stage h s hooks attempts) (discreet : stage.Discreet h.lifetime h.provider) :
    Standing stage h s hooks attempts := by
  induction career with
  | built unreported made =>
    refine .untried unreported ?_ ?_ <;> rw [made] <;> rfl
  | accepted career registered ih =>
    obtain ⟨running, next⟩ := Lifetime.register_eq_ok_iff.mp registered
    cases ih discreet with
    | untried unreported _ held =>
      refine .untried unreported ?_ ?_
      · rw [next]
        exact running
      · rw [next, held]
    | told closed _ _ _ => exact absurd running closed.stopping
    | lost closed _ _ _ => exact absurd running closed.stopping
  | passed career uses none_accepted ih =>
    cases ih discreet with
    | untried unreported running held =>
      exact .untried unreported (by rw [Lifetime.Uses.phase_eq uses, running])
        (none_accepted.trans held)
    | told closed reported whole complete =>
      exact .told (Lifetime.Uses.closed uses closed) reported whole complete
    | lost closed cut accepted empty =>
      exact .lost (Lifetime.Uses.closed uses closed) cut accepted empty
  | @attempted h s t hooks attempts acts a career heeds attempted ih =>
    obtain ⟨same_lifetime, same_provider, -⟩ := attempted.host
    rw [same_lifetime, same_provider] at discreet
    cases ih discreet with
    | untried unreported running held =>
      cases attempted with
      | again reported =>
        rw [unreported] at reported
        cases reported
      | fresh _ course =>
        obtain ⟨handed, closed⟩ := (discreet.enterStopping s).1 running
        rw [handed, held] at course
        exact .of_first discreet heeds unreported closed course
    | told closed reported whole complete =>
      cases attempted with
      | fresh unreported _ =>
        rw [unreported] at reported
        cases reported
      | again reported' =>
        refine .told (Lifetime.Uses.closed (discreet.report _ _) closed) reported ?_ ?_
        · intro b hb
          rcases List.mem_append.mp hb with old | new
          · exact whole b old
          · rw [List.mem_singleton.mp new]
            rfl
        · rw [List.flatMap_append, List.flatMap_singleton, List.append_nil]
          exact complete
    | lost closed cut accepted empty => exact .of_lost discreet closed cut accepted empty attempted

/-! ## Reports -/

/-- When a host that may have been tried to be disposed before returns a report, the report is complete
just if no attempt before was cut short. If one was, the report is empty, and clean, although there
are hooks that were accepted. -/
theorem report_complete_iff [BEq W] {hooks : List (Hook H)} {attempts : List (Attempt σ H)}
    {acts : List (StateM σ Unit)} {report : ShutdownReport}
    (discreet : stage.Discreet h.lifetime h.provider) (career : Career stage h s hooks attempts)
    (heeds : ∀ act ∈ acts, stage.Heeds h.lifetime act)
    (returned : h.attempt stage acts s = (.returned h' report, t)) :
    ∃ accounts, h.Attempted stage s acts ⟨accounts, .returned h' report⟩ t ∧
      (report.Complete hooks (attempts.flatMap Attempt.accounts ++ accounts) ↔
        ∀ a ∈ attempts, a.isCut = false) ∧
      ((∃ a ∈ attempts, a.isCut = true) →
        report.records = [] ∧ report.isClean = true ∧ hooks ≠ []) := by
  obtain ⟨⟨accounts, ending⟩, u, attempted⟩ := Host.exists_attempted stage h acts s
  have same := attempted.attempt_eq
  rw [returned] at same
  cases same
  refine ⟨accounts, attempted, ?_⟩
  obtain ⟨same_lifetime, same_provider, keeps⟩ := attempted.host
  have reported := keeps h' report rfl
  have standing := (career.attempted heeds attempted).standing (by
    rw [same_lifetime, same_provider]
    exact discreet)
  generalize all : attempts ++ [⟨accounts, .returned h' report⟩] = attempts' at standing
  have before : ∀ a ∈ attempts', a.isCut = true → a ∈ attempts := by
    intro a ha is_cut
    rw [← all] at ha
    rcases List.mem_append.mp ha with old | new
    · exact old
    · rw [List.mem_singleton.mp new] at is_cut
      cases is_cut
  cases standing with
  | untried _ _ _ => exact absurd all (List.append_ne_nil_of_right_ne_nil _ (List.cons_ne_nil _ _))
  | told _ kept whole complete =>
    rw [← all] at whole complete
    cases reported.symm.trans kept
    rw [List.flatMap_append, List.flatMap_singleton] at complete
    have whole' : ∀ a ∈ attempts, a.isCut = false := fun a ha => whole a (List.mem_append_left _ ha)
    refine ⟨⟨fun _ => whole', fun _ => complete⟩, ?_⟩
    rintro ⟨a, ha, is_cut⟩
    rw [whole' a ha] at is_cut
    cases is_cut
  | lost _ cut accepted empty =>
    obtain ⟨a, ha, is_cut⟩ := cut
    have nothing := empty report reported
    refine ⟨⟨?_, ?_⟩, fun _ => ⟨nothing, ?_, accepted⟩⟩
    · intro complete
      have recorded := complete.records
      rw [nothing, List.forall₂_nil_right_iff] at recorded
      rw [← complete.hooks, recorded] at accepted
      exact absurd rfl accepted
    · intro whole
      rw [whole a (before a ha is_cut)] at is_cut
      cases is_cut
    · rw [ShutdownReport.isClean, nothing]
      rfl

end

namespace Rehearsal

/-- A builder with one hook. -/
def lone (job : Job) : Builder String Unit Job := (Builder.new 0).addHook ⟨"only", job⟩

/-- The scene of a host that has been built with one hook. -/
def alone (job : Job) : Scene := ⟨.start, [], (lone job).lifetimeOf, .ofRegistry .empty⟩

theorem career_alone (job : Job) : Career stage host (alone job) [⟨"only", job⟩] [] :=
  Career.built (b := lone job) rfl rfl

/-- One hook that comes to a result at once. -/
theorem lone_complete : ∃ h' report t accounts,
    host.attempt stage [] (alone (.rest .zero (.ok ()))) = (.returned h' report, t) ∧
      report.Complete [⟨"only", .rest .zero (.ok ())⟩] (accounts : List (Account Scene Job)) := by
  have reported : (host.attempt stage [] (alone (.rest .zero (.ok ())))).1.report? =
      some ⟨[⟨"only", .completed, .zero⟩], 0⟩ := by decide +kernel
  obtain ⟨h', t, returned⟩ := Ending.exists_returned reported
  obtain ⟨accounts, -, complete_iff, -⟩ := report_complete_iff (sound host).discreet (career_alone _)
    (fun act hact => absurd hact List.not_mem_nil) returned
  exact ⟨h', _, t, accounts, returned,
    complete_iff.mpr fun a ha => absurd ha List.not_mem_nil⟩

/-- A hook that never ends, and a first attempt that is given up. The second one returns at once. Its
report is clean, and the hook is not in it. -/
theorem lone_lost : ∃ a s h' report t,
    Career stage host s [⟨"only", .never⟩] [a] ∧ a.isCut = true ∧
      host.attempt stage [] s = (.returned h' report, t) ∧
      report.records = [] ∧ report.isClean = true ∧
      ∀ accounts : List (Account Scene Job), ¬ report.Complete [⟨"only", .never⟩] accounts := by
  have given_up : (host.attempt stage [] (alone .never)).1.report? = none := by decide +kernel
  have reported : (host.attempt stage [] (host.attempt stage [] (alone .never)).2).1.report? =
      some ⟨[], 0⟩ := by decide +kernel
  obtain ⟨h', t, returned⟩ := Ending.exists_returned reported
  obtain ⟨⟨accounts, ending⟩, s, attempted⟩ := Host.exists_attempted stage host [] (alone .never)
  rw [attempted.attempt_eq] at given_up returned
  have career := (career_alone .never).attempted (fun act hact => absurd hact List.not_mem_nil) attempted
  cases ending with
  | returned h'' report => cases given_up
  | cut c =>
    refine ⟨_, s, h', _, t, career, rfl, returned, rfl, rfl, ?_⟩
    intro accounts complete
    have recorded := List.forall₂_nil_right_iff.mp complete.records
    have hooks := complete.hooks
    rw [recorded] at hooks
    cases hooks

end Rehearsal

end HostBench
