/-
  Scopes and what becomes of their hosts. A scope builds a host, lets a body run with it, and disposes
  it; there are three ways out of it before its end, as the body or a hook may panic and the scope may
  be given up at any time.

  * A scope is its parts one after the other (`Scope.run_of_built`): the body (`Visit.run`), an attempt
    to dispose the host if the body has returned, and a drop of the host if anything was cut short
    (`Scope.settle`).
  * A diary that is kept of a scope has the hooks that were started (`Scope.renders_occupy`). The body
    starts none and a drop starts none, and the attempt starts those that it gives accounts of
    (`Host.accounted_attempt`).
  * All ways out lead to the same end: the host has stopped for good, and whoever still has its lifetime
    or its provider gets nothing more out of them (`HostStage.Inert`). `Scope.exits_in_order` puts it
    together.
-/
import HostBench.Proofs.Building.Histories
import HostBench.Proofs.Disposal.Obeyed
import HostBench.Proofs.Disposal.Told
import HostBench.Proofs.Service.Overtaken
import HostBench.Scope

namespace HostBench

variable {σ H ρ V F W β R ε : Type}

/-! ## Bodies -/

namespace Visit

/-- How a body ends. -/
inductive Ending (R : Type) where
  | returned (result : R)
  | panicked (message : String)
  /-- It is given up while it waits. -/
  | dropped

/-- Follows a body to its end, with what others do between two polls, and counts those who have acted.
When nobody is left to act, it is given up. -/
def follow (visit : Visit σ β R) (host : Host) :
    List (StateM σ Unit) → Step β R → StateM σ (Ending R × Nat)
  | _, .done result => return (.returned result, 0)
  | _, .panicked message => return (.panicked message, 0)
  | [], .waiting body => do
    visit.abandon body
    return (.dropped, 0)
  | act :: acts, .waiting body => do
    act
    let (ending, used) ← visit.follow host acts (← visit.poll host body)
    return (ending, used + 1)

/-- The run of a body with a host. -/
def run (visit : Visit σ β R) (host : Host) (body : β) (acts : List (StateM σ Unit)) :
    StateM σ (Ending R × Nat) := do
  visit.follow host acts (← visit.poll host body)

/-- The same, noted in a diary. -/
def jotted (visit : Visit σ β R) : Visit (Diary σ H) β R :=
  ⟨fun host body => jot (visit.poll host body), fun body => jot (visit.abandon body)⟩

/-- Whatever state it is in, a body only uses the host that it is given. -/
structure Minds (visit : Visit σ β R) (stage : HostStage σ H ρ V F W) (lifetime provider : Nat) :
    Prop where
  poll : ∀ host : Host, host.At lifetime provider → ∀ body,
    stage.Minds lifetime provider (visit.poll host body)
  abandon : ∀ body, stage.Minds lifetime provider (visit.abandon body)

section
variable {visit : Visit σ β R} {host : Host} {acts : List (StateM σ Unit)} {kind : ProgramKind σ}

/-- What a body and those around it do is of a kind that holds all parts of it. -/
theorem has_follow (poll : ∀ body, kind.Has (visit.poll host body))
    (abandon : ∀ body, kind.Has (visit.abandon body)) (others : ∀ act ∈ acts, kind.Has act)
    (step : Step β R) : kind.Has (visit.follow host acts step) := by
  induction acts generalizing step with
  | nil =>
    cases step with
    | waiting body => exact kind.bind (abandon body) fun _ => kind.pure _
    | done result => exact kind.pure _
    | panicked message => exact kind.pure _
  | cons act acts ih =>
    cases step with
    | waiting body =>
      obtain ⟨first, rest⟩ := List.forall_mem_cons.mp others
      exact kind.bind first fun _ => kind.bind (poll body) fun step =>
        kind.bind (ih rest step) fun ⟨ending, used⟩ => kind.pure _
    | done result => exact kind.pure _
    | panicked message => exact kind.pure _

theorem has_run (poll : ∀ body, kind.Has (visit.poll host body))
    (abandon : ∀ body, kind.Has (visit.abandon body)) (others : ∀ act ∈ acts, kind.Has act)
    (body : β) : kind.Has (visit.run host body acts) :=
  kind.bind (poll body) fun step => has_follow poll abandon others step

/-- What all that is noted in a diary leaves as it is stays so while a body runs. -/
theorem keeps_run {P : Diary σ H → Prop} (poll : ∀ body, Keeps P (jot (visit.poll host body)))
    (abandon : ∀ body, Keeps P (jot (visit.abandon body))) (others : ∀ m ∈ acts, Keeps P (jot m))
    (body : β) : Keeps P (visit.jotted.run host body (acts.map jot)) := by
  have composed : (keepsKind P).Has (visit.jotted.run host body (acts.map jot)) := by
    refine has_run poll abandon (fun act hact => ?_) body
    obtain ⟨m, hm, rfl⟩ := List.mem_map.mp hact
    exact others m hm
  exact composed

theorem renders_follow (visit : Visit σ β R) (host : Host) (acts : List (StateM σ Unit))
    (step : Step β R) :
    Renders (H := H) id (visit.jotted.follow host (acts.map jot) step)
      (visit.follow host acts step) := by
  induction acts generalizing step with
  | nil =>
    cases step with
    | waiting body => exact Renders.bind (f := id) (fun _ => ⟨rfl, rfl⟩) fun _ => renders_pure _
    | done result => exact renders_pure _
    | panicked message => exact renders_pure _
  | cons act acts ih =>
    cases step with
    | waiting body =>
      refine Renders.bind (f := id) (fun _ => ⟨rfl, rfl⟩) fun _ => ?_
      refine Renders.bind (f := id) (fun _ => ⟨rfl, rfl⟩) fun step => ?_
      exact (ih step).bind fun ⟨ending, used⟩ => renders_pure _
    | done result => exact renders_pure _
    | panicked message => exact renders_pure _

theorem renders_run (visit : Visit σ β R) (host : Host) (body : β) (acts : List (StateM σ Unit)) :
    Renders (H := H) id (visit.jotted.run host body (acts.map jot)) (visit.run host body acts) :=
  Renders.bind (f := id) (fun _ => ⟨rfl, rfl⟩) fun step => renders_follow visit host acts step

end

end Visit

/-! ## A scope is its parts in sequence -/

namespace Scope

/-- How a scope with a host ends. -/
inductive Ending (R : Type) where
  | returned (result : R) (report : ShutdownReport)
  | panicked (message : String)
  /-- It is given up while it waits. -/
  | dropped

/-- What cuts a disposal short ends the scope. -/
def Ending.ofCut : Cut → Ending R
  | .panicked message => .panicked message
  | .dropped => .dropped

section
variable [BEq W] (stage : HostStage σ H ρ V F W) (visit : Visit σ β R)

/-- Follows a scope to its end, with what others do between two polls. When nobody is left to act, it
is given up. -/
def follow : List (StateM σ Unit) → Step (Scope H ρ β R) (R × ShutdownReport) → StateM σ (Ending R)
  | _, .done (result, report) => return .returned result report
  | _, .panicked message => return .panicked message
  | [], .waiting scope => do
    abandon stage visit scope
    return .dropped
  | act :: acts, .waiting scope => do
    act
    follow acts (← poll stage visit scope)

/-- A scope from its beginning to its end. -/
def run (build : StateM σ (Except ε Host)) (body : β) (acts : List (StateM σ Unit)) :
    StateM σ (Except ε (Ending R)) := do
  match ← enter stage visit build body with
  | .error e => return .error e
  | .ok step => return .ok (← follow stage visit acts step)

omit [BEq W] in
/-- How the scope of a body that has returned ends after an attempt to dispose the host. -/
def conclude (host : Host) (result : R) : HostBench.Ending → StateM σ (Ending R)
  | .returned _ report => return .returned result report
  | .cut c => do
    host.drop stage
    return .ofCut c

/-- What becomes of the host when the body has ended. -/
def settle (host : Host) (acts : List (StateM σ Unit)) : Visit.Ending R → StateM σ (Ending R)
  | .returned result => do conclude stage host result (← host.attempt stage acts)
  | .panicked message => do
    host.drop stage
    return .panicked message
  | .dropped => do
    host.drop stage
    return .dropped

/-- A body runs with a host, and then the host is disposed or dropped. -/
def occupy (host : Host) (body : β) (acts : List (StateM σ Unit)) : StateM σ (Ending R) := do
  let (ending, used) ← visit.run host body acts
  settle stage host (acts.drop used) ending

variable {stage visit} {host : Host} {build : StateM σ (Except ε Host)} {body : β}
  {acts : List (StateM σ Unit)} {s t : σ}

theorem follow_leave (result : R) {step : Step (Disposal H ρ) (Host × ShutdownReport)}
    (answers : host.Answers step) (s : σ) :
    (leave stage host result step >>= follow stage visit acts) s =
      (Host.follow stage acts step >>= conclude stage host result) s := by
  induction acts generalizing step s with
  | nil =>
    cases step with
    | waiting d =>
      cases answers
      rfl
    | done x => rfl
    | panicked message => rfl
  | cons act acts ih =>
    cases step with
    | waiting d =>
      cases answers
      exact ih (Host.answers_pollDisposal stage d (act s).2) _
    | done x => rfl
    | panicked message => rfl

theorem follow_afterBody (step : Step β R) (s : σ) :
    (afterBody stage host step >>= follow stage visit acts) s =
      (visit.follow host acts step >>= fun x => settle stage host (acts.drop x.2) x.1) s := by
  induction acts generalizing step s with
  | nil =>
    cases step with
    | waiting body => rfl
    | done result => exact follow_leave result (Host.answers_dispose stage host s) _
    | panicked message => rfl
  | cons act acts ih =>
    cases step with
    | waiting body => exact ih (visit.poll host body (act s).2).1 _
    | done result => exact follow_leave result (Host.answers_dispose stage host s) _
    | panicked message => rfl

/-- Where a host is built, the scope is what becomes of it. -/
theorem run_of_built (built : build s = (.ok host, t)) :
    run stage visit build body acts s =
      (.ok (occupy stage visit host body acts t).1, (occupy stage visit host body acts t).2) := by
  have parts : occupy stage visit host body acts t =
      (afterBody stage host (visit.poll host body t).1 >>= follow stage visit acts)
        (visit.poll host body t).2 := (follow_afterBody _ _).symm
  rw [parts]
  simp only [run, enter, bind, StateT.bind, built]
  rfl

/-- Where no host is built, that is all. -/
theorem run_of_refused {e : ε} (refused : build s = (.error e, t)) :
    run stage visit build body acts s = (.error e, t) := by
  simp only [run, enter, bind, StateT.bind, refused]
  rfl

end

end Scope

/-! ## Hosts that have stopped -/

/-- A host has stopped for good. No hooks are held any more and none are accepted, and no services are
found. -/
structure HostStage.Inert (stage : HostStage σ H ρ V F W) (lifetime provider : Nat) (s : σ) : Prop where
  phase : ((stage.lifetime lifetime).get s).phase = .stopped
  none_held : ((stage.lifetime lifetime).get s).hooks = []
  none_accepted : ∀ hook,
    ((stage.lifetime lifetime).get s).register hook = .error ⟨"register_on_stop"⟩
  released : (stage.provider provider).get s = .released
  none_found : ∀ make created key, Provider.resolve (stage.provider provider) make created key s =
    (.error (.disposed ⟨"resolve"⟩), s)

/-- A host whose services are released stays inert, whatever others do with what is left of it. -/
theorem HostStage.Told.inert {stage : HostStage σ H ρ V F W} {lifetime provider n : Nat}
    {d : Diary σ H} {s : σ} (told : stage.Told lifetime provider n .released d)
    (uses : stage.Uses lifetime provider d.now s) : stage.Inert lifetime provider s := by
  have stands := told.1.uses uses
  have stopped : ((stage.lifetime lifetime).get s).phase ≠ .running := by
    rw [stands.phase]
    decide
  have released := Provider.eq_released stands.released
  refine ⟨stands.phase, Lifetime.Uses.spent uses.lifetime told.2.now stopped,
    Lifetime.register_of_ne_running stopped, released, fun make created key => ?_⟩
  have read : (stage.provider provider).read s = (.released, s) := by
    rw [← released]
    rfl
  simp only [Provider.resolve, bind, StateT.bind, read]
  rfl

/-! ## Attempts in a diary -/

/-- What a diary has of an attempt to dispose a host that held these hooks: the hooks that it has
accounts of, which are all of them if it returned. -/
def Ending.Accounted (n : Nat) (hooks : List (Hook H)) (started : List (Hook H × σ)) : Ending → Prop
  | .returned _ report => report.released = n ∧
    ∃ accounts : List (Account (Diary σ H) H), report.Complete hooks accounts ∧
      started = accounts.map fun a => (a.hook, a.initial.now)
  | .cut c => ∃ (before : List (Account (Diary σ H) H)) (last : Account (Diary σ H) H),
    (before ++ [last]).map Account.hook <+: hooks ∧ last.fate = .cut c ∧
      started = (before ++ [last]).map fun a => (a.hook, a.initial.now)

theorem Host.accounted_attempt [BEq W] {stage : HostStage σ H ρ V F W} {h : Host} {n : Nat}
    (guarded : stage.Guarded h.lifetime h.provider) (fresh : h.report = none) {d : Diary σ H}
    (told : stage.Told h.lifetime h.provider n .running d) {acts : List (StateM σ Unit)}
    (minds : ∀ m ∈ acts, stage.Minds h.lifetime h.provider m) :
    ∃ started, (h.attempt stage.diary (acts.map jot) d).2.starts = d.starts ++ started ∧
      (h.attempt stage.diary (acts.map jot) d).1.Accounted n
        ((stage.lifetime h.lifetime).get d.now).hooks started := by
  have ended := ensures_attempt (guarded.unfolds_told n) fresh (jots_map (H := H) minds) d (.inl told)
  obtain ⟨accounts, records, cut, t, rest, course, attempted⟩ :=
    exists_course stage.diary fresh (acts.map jot) d
  refine ⟨accounts.map fun a => (a.hook, a.initial.now), ?_, ?_⟩
  · rw [attempted, starts_conclude course (jots_map minds)]
  have handed : (h.enterStopping stage.diary d).1 =
      ((stage.lifetime h.lifetime).get d.now).hooks :=
    (Lifetime.beginStopping_of_running told.1.phase).2.2
  rw [handed] at course
  rw [attempted] at ended ⊢
  cases cut with
  | none =>
    obtain ⟨own, recorded⟩ := course.recorded
    exact ⟨ended.2.1, accounts, ⟨own, recorded, ran_of_recorded recorded⟩, rfl⟩
  | some c =>
    obtain ⟨before, last, rfl, fate⟩ := course.last_of_cut
    exact ⟨before, last, course.hooks_prefix, fate, rfl⟩

/-! ## Builders -/

namespace Builder

variable {b : Builder V F H} {mint : BuiltIn → V} {log lifetime : Nat}
  {events : List Trace.Event} {p : Blueprint V F H W}

theorem raise_of_refused {e : ConfigurationError}
    (planned : (b.build (W := W) mint log lifetime).run.run [] = (.error e, events))
    (report : Trace.Event → StateM σ Unit) (put : Blueprint V F H W → StateM σ Host) (s : σ) :
    b.raise mint log lifetime report put s = (.error e, (events.forM report s).2) := by
  simp only [raise, planned]
  rfl

theorem raise_of_planned (planned : (b.build mint log lifetime).run.run [] = (.ok p, events))
    (report : Trace.Event → StateM σ Unit) (put : Blueprint V F H W → StateM σ Host) (s : σ) :
    b.raise mint log lifetime report put s =
      (.ok (put p (events.forM report s).2).1, (put p (events.forM report s).2).2) := by
  simp only [raise, planned]
  rfl

/-- A host is built with the hooks of its builder. -/
theorem lifetime_of_build (planned : (b.build mint log lifetime).run.run [] = (.ok p, events)) :
    p.lifetime = b.lifetimeOf := by
  have result := result_build (W := W) b mint log lifetime []
  rw [planned] at result
  split at result
  · cases result
  · split at result
    · cases result
    · split at result
      · cases result
      · cases result
        rfl

end Builder

/-- What is built of a blueprint is put at certain places. -/
structure HostStage.Puts (stage : HostStage σ H ρ V F W) (lifetime provider : Nat)
    (p : Blueprint V F H W) (placed : Host × σ) : Prop where
  host : placed.1 = .new p.settings provider lifetime
  lifetime : (stage.lifetime lifetime).get placed.2 = p.lifetime
  provider : (stage.provider provider).get placed.2 = .ofRegistry p.registry

theorem HostStage.Puts.stands {stage : HostStage σ H ρ V F W} {lifetime provider : Nat}
    {b : Builder V F H} {p : Blueprint V F H W} {placed : Host × σ}
    (puts : stage.Puts lifetime provider p placed) (made : p.lifetime = b.lifetimeOf) :
    stage.In lifetime provider p.registry.size .running placed.2 where
  phase := by
    rw [puts.lifetime, made]
    rfl
  released := by
    rw [puts.provider]
    rfl
  size := by
    rw [puts.provider]
    rfl

/-! ## Scopes in a diary -/

namespace Scope

theorem renders_conclude (stage : HostStage σ H ρ V F W) (host : Host) (result : R)
    (ending : HostBench.Ending) :
    Renders id (conclude stage.diary host result ending) (conclude stage host result ending) := by
  cases ending with
  | returned h report => exact renders_pure _
  | cut c => exact (renders_drop stage host).bind fun _ => renders_pure _

variable [BEq W]

theorem renders_settle (stage : HostStage σ H ρ V F W) (host : Host) (acts : List (StateM σ Unit))
    (ending : Visit.Ending R) :
    Renders id (settle stage.diary host (acts.map jot) ending) (settle stage host acts ending) := by
  cases ending with
  | returned result =>
    exact (renders_attempt stage host acts).bind fun ending => renders_conclude stage host result ending
  | panicked message => exact (renders_drop stage host).bind fun _ => renders_pure _
  | dropped => exact (renders_drop stage host).bind fun _ => renders_pure _

/-- To keep a diary of a scope makes no difference. -/
theorem renders_occupy (stage : HostStage σ H ρ V F W) (visit : Visit σ β R) (host : Host) (body : β)
    (acts : List (StateM σ Unit)) :
    Renders id (occupy stage.diary visit.jotted host body (acts.map jot))
      (occupy stage visit host body acts) := by
  refine (visit.renders_run host body acts).bind fun ⟨ending, used⟩ => ?_
  show Renders id (settle stage.diary host ((acts.map jot).drop used) ending) _
  rw [← List.map_drop]
  exact renders_settle stage host (acts.drop used) ending

section
variable {stage : HostStage σ H ρ V F W} {visit : Visit σ β R} {host : Host} {n : Nat} {body : β}
  {acts : List (StateM σ Unit)}

/-- Whatever has ended the body, the host does not outlive the scope. -/
theorem ensures_settle {around : StateM σ Unit → Prop} {C : Era → σ → Prop}
    (unfolds : stage.Unfolds host.lifetime host.provider around C n) (fresh : host.report = none)
    (running : host.state = .running) (allowed : ∀ act ∈ acts, around act) (ending : Visit.Ending R) :
    Ensures (C .running) (settle stage host acts ending) fun _ => C .released := by
  have unstopped : host.state ≠ .stopped := by rw [running]; decide
  have drops : ∀ ending : Ending R, Ensures (fun s => C .running s ∨ C .stopping s)
      (host.drop stage >>= fun _ => pure ending) fun _ => C .released :=
    fun ending => (Host.ensures_drop unfolds unstopped).bind fun _ _ released => released
  cases ending with
  | returned result =>
    have attempted := (Host.ensures_attempt unfolds fresh allowed).mono
      (fun _ hs => Or.inl hs) fun _ _ ended => ended
    refine attempted.bind fun ended => ?_
    cases ended with
    | returned h report => exact fun _ left => left.2.2
    | cut c => exact fun s stopping => drops (.ofCut c) s (.inr stopping)
  | panicked message => exact fun s running => drops (.panicked message) s (.inl running)
  | dropped => exact fun s running => drops .dropped s (.inl running)

omit [BEq W] in
/-- A body runs while its host does, and starts no hooks. -/
theorem exists_ran (heeds : visit.Minds stage host.lifetime host.provider)
    (minds : ∀ m ∈ acts, stage.Minds host.lifetime host.provider m) {d : Diary σ H}
    (told : stage.Told host.lifetime host.provider n .running d) (body : β) :
    ∃ e, visit.jotted.run host body (acts.map jot) d = ((visit.run host body acts d.now).1, e) ∧
      e.now = (visit.run host body acts d.now).2 ∧ e.starts = d.starts ∧
      stage.Told host.lifetime host.provider n .running e := by
  obtain ⟨answer, after⟩ := visit.renders_run host body acts d
  have quiet : ∀ {α : Type} (m : StateM σ α), Keeps (fun e : Diary σ H => e.starts = d.starts) (jot m) :=
    fun m e same => (Diary.starts_enter e _).trans same
  refine ⟨_, Prod.ext answer rfl, after, ?_, ?_⟩
  · exact Visit.keeps_run (fun body => quiet _) (fun body => quiet _) (fun m _ => quiet m) body d rfl
  · exact Visit.keeps_run (fun body => keeps_jot (heeds.poll host ⟨rfl, rfl⟩ body))
      (fun body => keeps_jot (heeds.abandon body)) (fun m hm => keeps_jot (minds m hm)) body d told

theorem occupy_of_ran {used : Nat} {ended : Visit.Ending R} {s t : σ}
    (ran : visit.run host body acts s = ((ended, used), t)) :
    occupy stage visit host body acts s = settle stage host (acts.drop used) ended t := by
  simp only [occupy, bind, StateT.bind, ran]

theorem occupy_of_attempted {result : R} {used : Nat} {ended : HostBench.Ending} {s t u : σ}
    (ran : visit.run host body acts s = ((.returned result, used), t))
    (attempted : host.attempt stage (acts.drop used) t = (ended, u)) :
    occupy stage visit host body acts s = conclude stage host result ended u := by
  rw [occupy_of_ran ran]
  simp only [settle, bind, StateT.bind, attempted]

/-- How a scope goes whose host has been built with `n` services and these hooks: what its body comes
to with the host, what becomes of the host after that, and which hooks a diary has of all that. -/
structure Exits (stage : HostStage σ H ρ V F W) (visit : Visit σ β R) (host : Host) (n : Nat)
    (hooks : List (Hook H)) (body : β) (acts : List (StateM σ Unit)) (s : σ) (ending : Ending R)
    (d : Diary σ H) : Prop where
  /-- The host runs up to the end of the body. A hook that is registered until then comes after those
  that are there, and none of them is lost. -/
  held : ∀ {ended used t}, visit.run host body acts s = ((ended, used), t) →
    ((stage.lifetime host.lifetime).get t).phase = .running ∧
    hooks <+: ((stage.lifetime host.lifetime).get t).hooks ∧
    ∀ l hook l', Lifetime.Uses ((stage.lifetime host.lifetime).get s) l → l.register hook = .ok l' →
      Lifetime.Uses l' ((stage.lifetime host.lifetime).get t) →
        l.hooks ++ [hook] <+: ((stage.lifetime host.lifetime).get t).hooks
  /-- If the body returns, the scope returns its result and the report of a disposal, which has all
  hooks that are held then. -/
  returned : ∀ {result used t h report u},
    visit.run host body acts s = ((.returned result, used), t) →
    host.attempt stage (acts.drop used) t = (.returned h report, u) →
    ending = .returned result report ∧ d.now = u ∧ report.released = n ∧
      ∃ accounts : List (Account (Diary σ H) H),
        report.Complete ((stage.lifetime host.lifetime).get t).hooks accounts ∧
        d.starts = accounts.map fun a => (a.hook, a.initial.now)
  /-- If a hook panics or the disposal is given up, no hooks are started after that. -/
  cut : ∀ {result used t c u}, visit.run host body acts s = ((.returned result, used), t) →
    host.attempt stage (acts.drop used) t = (.cut c, u) →
    ending = .ofCut c ∧ d.now = (host.drop stage u).2 ∧
      ∃ (before : List (Account (Diary σ H) H)) (last : Account (Diary σ H) H),
        (before ++ [last]).map Account.hook <+: ((stage.lifetime host.lifetime).get t).hooks ∧
        last.fate = .cut c ∧ d.starts = (before ++ [last]).map fun a => (a.hook, a.initial.now)
  /-- If the body panics, no hooks are started. -/
  panicked : ∀ {message used t}, visit.run host body acts s = ((.panicked message, used), t) →
    ending = .panicked message ∧ d.now = (host.drop stage t).2 ∧ d.starts = []
  /-- If the body is given up, no hooks are started. -/
  dropped : ∀ {used t}, visit.run host body acts s = ((.dropped, used), t) →
    ending = .dropped ∧ d.now = (host.drop stage t).2 ∧ d.starts = []
  /-- However it ends, the host has stopped for good. -/
  inert : ∀ t, stage.Uses host.lifetime host.provider d.now t →
    stage.Inert host.lifetime host.provider t

theorem starts_settle (host : Host) (result : R) (acts : List (StateM (Diary σ H) Unit))
    (d : Diary σ H) :
    (settle stage.diary host acts (.returned result) d).2.starts =
      (host.attempt stage.diary acts d).2.starts := by
  simp only [settle, bind, StateT.bind]
  cases host.attempt stage.diary acts d with
  | mk ending e =>
    cases ending with
    | returned h report => rfl
    | cut c => exact host.starts_drop e

/-- The scope from the end of its body on, in a diary. -/
theorem exists_occupied (heeds : visit.Minds stage host.lifetime host.provider)
    (minds : ∀ m ∈ acts, stage.Minds host.lifetime host.provider m) {s t : σ}
    (stands : stage.In host.lifetime host.provider n .running s) {ended : Visit.Ending R} {used : Nat}
    (ran : visit.run host body acts s = ((ended, used), t)) :
    ∃ e : Diary σ H, e.now = t ∧ e.starts = [] ∧
      stage.Told host.lifetime host.provider n .running e ∧
      occupy stage.diary visit.jotted host body (acts.map jot) (.opened s) =
        settle stage.diary host ((acts.drop used).map jot) ended e := by
  have opened : stage.Told host.lifetime host.provider n .running (.opened s : Diary σ H) :=
    ⟨stands, Diary.tells_opened fun stopped => absurd stands.phase stopped⟩
  obtain ⟨e, noted, now, quiet, told⟩ := exists_ran heeds minds opened body
  have same : visit.run host body acts (Diary.opened s : Diary σ H).now = ((ended, used), t) := ran
  rw [same] at noted now
  rw [List.map_drop]
  exact ⟨e, now, quiet, told, occupy_of_ran noted⟩

/-- Where the body has returned, the diary of the scope has the hooks of the attempt. -/
theorem accounted_occupy (guarded : stage.Guarded host.lifetime host.provider)
    (heeds : visit.Minds stage host.lifetime host.provider)
    (minds : ∀ m ∈ acts, stage.Minds host.lifetime host.provider m) (fresh : host.report = none)
    {s t u : σ} (stands : stage.In host.lifetime host.provider n .running s) {result : R} {used : Nat}
    {ended : HostBench.Ending} (ran : visit.run host body acts s = ((.returned result, used), t))
    (attempted : host.attempt stage (acts.drop used) t = (ended, u)) :
    ended.Accounted n ((stage.lifetime host.lifetime).get t).hooks
      (occupy stage.diary visit.jotted host body (acts.map jot) (.opened s)).2.starts := by
  obtain ⟨e, rfl, quiet, told, noted⟩ := exists_occupied heeds minds stands ran
  have unused : ∀ m ∈ acts.drop used, stage.Minds host.lifetime host.provider m :=
    fun m hm => minds m (List.mem_of_mem_drop hm)
  obtain ⟨started, starts, accounted⟩ := Host.accounted_attempt guarded fresh told unused
  have answer : (host.attempt stage.diary ((acts.drop used).map jot) e).1 = ended :=
    (renders_attempt stage host (acts.drop used) e).1.trans (congrArg Prod.fst attempted)
  rw [noted, starts_settle, starts, quiet, List.nil_append, ← answer]
  exact accounted

omit [BEq W] in
/-- A body and those around it only use the host. -/
theorem uses_run (heeds : visit.Minds stage host.lifetime host.provider)
    (minds : ∀ m ∈ acts, stage.Minds host.lifetime host.provider m) (body : β) (s : σ) :
    stage.Uses host.lifetime host.provider s (visit.run host body acts s).2 := by
  have onward : ∀ {α : Type} {m : StateM σ α}, stage.Minds host.lifetime host.provider m →
      Keeps (stage.Uses host.lifetime host.provider s) m :=
    fun minds t before =>
      ⟨before.lifetime.trans (minds t).lifetime, before.provider.trans (minds t).provider⟩
  have composed : (keepsKind (stage.Uses host.lifetime host.provider s)).Has
      (visit.run host body acts) :=
    Visit.has_run (fun body => onward (heeds.poll host ⟨rfl, rfl⟩ body))
      (fun body => onward (heeds.abandon body)) (fun m hm => onward (minds m hm)) body
  exact composed s ⟨.refl, .refl⟩

theorem exits_occupy (guarded : stage.Guarded host.lifetime host.provider)
    (heeds : visit.Minds stage host.lifetime host.provider)
    (minds : ∀ m ∈ acts, stage.Minds host.lifetime host.provider m) (fresh : host.report = none)
    (running : host.state = .running) {s : σ}
    (stands : stage.In host.lifetime host.provider n .running s) (body : β) :
    Exits stage visit host n ((stage.lifetime host.lifetime).get s).hooks body acts s
      (occupy stage visit host body acts s).1
      (occupy stage.diary visit.jotted host body (acts.map jot) (.opened s)).2 := by
  have now : (occupy stage.diary visit.jotted host body (acts.map jot) (.opened s)).2.now =
      (occupy stage visit host body acts s).2 :=
    (renders_occupy stage visit host body acts (.opened s)).2
  constructor
  case held =>
    intro ended used t ran
    have uses := uses_run heeds minds body s
    rw [ran] at uses
    refine ⟨(stands.uses uses).phase, Lifetime.Uses.hooks_prefix uses.lifetime, ?_⟩
    intro l hook l' before registered after
    obtain ⟨-, rfl⟩ := Lifetime.register_eq_ok_iff.mp registered
    exact Lifetime.Uses.hooks_prefix after
  case returned =>
    intro result used t h report u ran attempted
    rw [now, occupy_of_attempted ran attempted]
    exact ⟨rfl, rfl, accounted_occupy guarded heeds minds fresh stands ran attempted⟩
  case cut =>
    intro result used t c u ran attempted
    rw [now, occupy_of_attempted ran attempted]
    exact ⟨rfl, rfl, accounted_occupy guarded heeds minds fresh stands ran attempted⟩
  case panicked =>
    intro message used t ran
    obtain ⟨e, -, quiet, -, noted⟩ := exists_occupied heeds minds stands ran
    rw [now, occupy_of_ran ran, noted]
    exact ⟨rfl, rfl, (host.starts_drop e).trans quiet⟩
  case dropped =>
    intro used t ran
    obtain ⟨e, -, quiet, -, noted⟩ := exists_occupied heeds minds stands ran
    rw [now, occupy_of_ran ran, noted]
    exact ⟨rfl, rfl, (host.starts_drop e).trans quiet⟩
  case inert =>
    intro t uses
    cases ran : visit.run host body acts s with
    | mk answer u =>
      obtain ⟨e, -, -, told, noted⟩ := exists_occupied heeds minds stands ran
      have allowed : ∀ act ∈ (acts.drop answer.2).map jot,
          Jots (H := H) (stage.Minds host.lifetime host.provider) act :=
        jots_map fun m hm => minds m (List.mem_of_mem_drop hm)
      rw [noted] at uses
      exact (ensures_settle (guarded.unfolds_told n) fresh running allowed answer.1 e told).inert uses

end

/-- A diary of a scope. It is opened when it is known whether there is a host. -/
def noted (stage : HostStage σ H ρ V F W) (visit : Visit σ β R) (build : StateM σ (Except ε Host))
    (body : β) (acts : List (StateM σ Unit)) (s : σ) : Except ε (Ending R) × Diary σ H :=
  run stage.diary visit.jotted (jot build) body (acts.map jot) ⟨s, []⟩

/-- How a scope goes whose host is built of a blueprint, if it is built, in a state in which that has
been reported, and is put somewhere then. -/
structure InOrder (stage : HostStage σ H ρ V F W) (visit : Visit σ β R) (lifetime provider : Nat)
    (blueprint : Except ConfigurationError (Blueprint V F H W)) (hooks : List (Hook H))
    (put : Blueprint V F H W → StateM σ Host) (reported : σ)
    (build : StateM σ (Except ConfigurationError Host)) (body : β) (acts : List (StateM σ Unit))
    (s : σ) : Prop where
  /-- To keep a diary makes no difference. -/
  plain : run stage visit build body acts s =
    ((noted stage visit build body acts s).1, (noted stage visit build body acts s).2.now)
  /-- If no host is built, the scope returns the error, and nothing else is done. -/
  refused : ∀ e, blueprint = .error e →
    noted stage visit build body acts s = (.error e, .opened reported)
  /-- If a host is built, it is the host of the scope. -/
  built : ∀ p, blueprint = .ok p → ∃ ending, (noted stage visit build body acts s).1 = .ok ending ∧
    Exits stage visit (.new p.settings provider lifetime) p.registry.size hooks body acts
      (put p reported).2 ending (noted stage visit build body acts s).2

section
variable {stage : HostStage σ H ρ V F W} {visit : Visit σ β R} {lifetime provider : Nat}
  {acts : List (StateM σ Unit)}

theorem noted_of_built {build : StateM σ (Except ε Host)} {body : β} {host : Host} {s t : σ}
    (built : build s = (.ok host, t)) :
    noted stage visit build body acts s =
      (.ok (occupy stage.diary visit.jotted host body (acts.map jot) (.opened t)).1,
        (occupy stage.diary visit.jotted host body (acts.map jot) (.opened t)).2) := by
  have jotted : jot build (⟨s, []⟩ : Diary σ H) = (.ok host, .opened t) := by
    unfold jot
    rw [built]
    rfl
  exact run_of_built jotted

theorem noted_of_refused {build : StateM σ (Except ε Host)} {body : β} {e : ε} {s t : σ}
    (refused : build s = (.error e, t)) :
    noted stage visit build body acts s = (.error e, .opened t) := by
  have jotted : jot build (⟨s, []⟩ : Diary σ H) = (.error e, .opened t) := by
    unfold jot
    rw [refused]
    rfl
  exact run_of_refused jotted

/-- **No host outlives its scope.** A scope returns the error with which no host is built, or it
builds the host, runs its body and disposes the host; whatever keeps it from that starts no more hooks,
and in any case the host has stopped for good in the end. -/
theorem exits_in_order (guarded : stage.Guarded lifetime provider)
    (heeds : visit.Minds stage lifetime provider)
    (minds : ∀ m ∈ acts, stage.Minds lifetime provider m) {b : Builder V F H} {mint : BuiltIn → V}
    {log : Nat} {blueprint : Except ConfigurationError (Blueprint V F H W)}
    {events : List Trace.Event}
    (planned : (b.build mint log lifetime).run.run [] = (blueprint, events))
    {report : Trace.Event → StateM σ Unit} {put : Blueprint V F H W → StateM σ Host} {s : σ}
    (puts : ∀ p, blueprint = .ok p →
      stage.Puts lifetime provider p (put p (events.forM report s).2)) (body : β) :
    InOrder stage visit lifetime provider blueprint b.hooks put (events.forM report s).2
      (b.raise mint log lifetime report put) body acts s := by
  cases blueprint with
  | error e =>
    have refused := Builder.raise_of_refused planned report put s
    refine ⟨?_, ?_, fun p none => by cases none⟩
    · rw [noted_of_refused refused, run_of_refused refused]
      rfl
    · rintro _ ⟨⟩
      exact noted_of_refused refused
  | ok p =>
    have placed := puts p rfl
    have built := Builder.raise_of_planned planned report put s
    rw [placed.host] at built
    have stands : stage.In lifetime provider p.registry.size .running
        (put p (events.forM report s).2).2 := placed.stands (Builder.lifetime_of_build planned)
    have held : ((stage.lifetime lifetime).get (put p (events.forM report s).2).2).hooks = b.hooks := by
      rw [placed.lifetime, Builder.lifetime_of_build planned]
      rfl
    obtain ⟨answer, after⟩ := renders_occupy stage visit (.new p.settings provider lifetime) body acts
      (.opened (put p (events.forM report s).2).2)
    refine ⟨?_, fun e none => (by cases none), ?_⟩
    · rw [noted_of_built built, run_of_built built]
      exact Prod.ext (congrArg Except.ok answer.symm) after.symm
    · rintro _ ⟨⟩
      rw [noted_of_built built, ← held]
      exact ⟨_, congrArg Except.ok answer, exits_occupy guarded heeds minds rfl rfl stands body⟩

end

end Scope

/-! ## Guests that leave hooks behind -/

namespace Rehearsal

/-- Registers a hook, if the host still accepts it. -/
def leaveHook (hook : Hook Job) : StateM Scene Unit := fun s =>
  ((), match s.lifetime.register hook with
    | .ok l => { s with lifetime := l }
    | .error _ => s)

/-- A body that leaves a hook at each poll, as long as it has some, and returns the state of the host in
the end. -/
def guest : Visit Scene (List (Hook Job)) HostState where
  poll host
    | [] => return .done host.state
    | hook :: rest => do
      leaveHook hook
      return .waiting rest
  abandon _ := return ()

theorem minds_leaveHook (hook : Hook Job) : stage.Minds 0 0 (leaveHook hook) := by
  intro s
  cases registered : s.lifetime.register hook with
  | error e =>
    have same : leaveHook hook s = ((), s) := by simp only [leaveHook, registered]
    rw [same]
    exact ⟨.refl, .refl⟩
  | ok l =>
    have left : leaveHook hook s = ((), { s with lifetime := l }) := by
      simp only [leaveHook, registered]
    rw [left]
    exact ⟨.single (.register registered), .refl⟩

theorem minds_guest : guest.Minds stage 0 0 where
  poll host home body s := by
    cases body with
    | nil => exact ⟨.refl, .refl⟩
    | cons hook rest => exact minds_leaveHook hook s
  abandon body s := ⟨.refl, .refl⟩

/-- A hook that does nothing. -/
def calm : Job := .rest .zero (.ok ())

/-- A host that is built with one hook. -/
def house : Blueprint String Unit Job Unit where
  settings := .default
  registry := ⟨[(⟨"exec_testhost::clock::FakeClock"⟩, .fixed "own"),
    (⟨"exec_testhost::event_log::InMemoryEventLog"⟩, .fixed "own"),
    (⟨"dyn exec_testhost::clock::Clock"⟩, .fixed "own"),
    (⟨"dyn exec_testhost::event_log::EventLog"⟩, .fixed "own"),
    (⟨"exec_testhost::lifetime::HostLifetime"⟩, .fixed "own"),
    (⟨"exec_testhost::host::HostEnvironment"⟩, .fixed "own")]⟩
  lifetime := ⟨.running, [⟨"only", calm⟩], []⟩
  eventLog := some (.empty (.fake 0) none)

/-- What is reported when the host is built. -/
def announced : List Trace.Event :=
  ((lone calm).build (W := Unit) (fun _ => "own") 0 0).run.run [] |>.2

theorem planned_house :
    ((lone calm).build (fun _ => "own") 0 0).run.run [] = (.ok house, announced) := rfl

/-- The scene of the host, as it is when it has these hooks. -/
def settled (hooks : List (Hook Job)) : Scene :=
  ⟨.start, [], ⟨.running, hooks, []⟩, .ofRegistry house.registry⟩

/-- Puts a host in its surroundings. -/
def settleIn (p : Blueprint String Unit Job Unit) : StateM Scene Host := fun s =>
  (.new p.settings 0 0, { s with lifetime := p.lifetime, provider := .ofRegistry p.registry })

/-- The host is built and settles in. -/
def moveIn : StateM Scene (Except ConfigurationError Host) :=
  (lone calm).raise (fun _ => "own") 0 0 stage.report settleIn

/-- A diary of the stay of a guest who brings some hooks. -/
def stay (hooks : List (Hook Job)) :
    Except ConfigurationError (Scope.Ending HostState) × Diary Scene Job :=
  Scope.noted stage guest moveIn hooks (List.replicate hooks.length (return ())) four

/-- A guest leaves a hook, and both hooks run when the host is disposed. Another one leaves a hook that
panics and one after that: the panic comes out, the last hook is not started, and the host has
stopped. -/
theorem guests_exit :
    ((stay [⟨"late", calm⟩]).1 =
        .ok (.returned .running ⟨[⟨"only", .completed, .zero⟩, ⟨"late", .completed, .zero⟩], 6⟩) ∧
      (stay [⟨"late", calm⟩]).2.starts.map Prod.fst = [⟨"only", calm⟩, ⟨"late", calm⟩] ∧
      stage.Inert 0 0 (stay [⟨"late", calm⟩]).2.now) ∧
    (stay [⟨"late", .panic "no"⟩, ⟨"last", calm⟩]).1 = .ok (.panicked "no") ∧
      (stay [⟨"late", .panic "no"⟩, ⟨"last", calm⟩]).2.starts.map (fun x => x.1.label) =
        ["only", "late"] ∧
      stage.Inert 0 0 (stay [⟨"late", .panic "no"⟩, ⟨"last", calm⟩]).2.now := by
  have idle : stage.Minds 0 0 (return ()) := fun _ => ⟨.refl, .refl⟩
  have stayed : ∀ hooks, ∃ ending, (stay hooks).1 = .ok ending ∧
      Scope.Exits stage guest host 6 [⟨"only", calm⟩] hooks (List.replicate hooks.length (return ()))
        (settled [⟨"only", calm⟩]) ending (stay hooks).2 := fun hooks =>
    (Scope.exits_in_order (sound host).guarded minds_guest
      (fun m hm => List.eq_of_mem_replicate hm ▸ idle) planned_house (fun p _ => ⟨rfl, rfl, rfl⟩)
      hooks).built house rfl
  have inert : ∀ hooks, stage.Inert 0 0 (stay hooks).2.now := by
    intro hooks
    obtain ⟨ending, -, exits⟩ := stayed hooks
    exact exits.inert _ ⟨.refl, .refl⟩
  constructor
  · obtain ⟨ending, answer, exits⟩ := stayed [⟨"late", calm⟩]
    have ran : guest.run host [⟨"late", calm⟩] [return ()] (settled [⟨"only", calm⟩]) =
        ((.returned .running, 1), settled [⟨"only", calm⟩, ⟨"late", calm⟩]) := rfl
    have reported : (host.attempt stage [] (settled [⟨"only", calm⟩, ⟨"late", calm⟩])).1.report? =
        some ⟨[⟨"only", .completed, .zero⟩, ⟨"late", .completed, .zero⟩], 6⟩ := by
      decide +kernel
    obtain ⟨h, u, attempted⟩ := Ending.exists_returned reported
    obtain ⟨rfl, -, -, accounts, complete, starts⟩ := exits.returned ran attempted
    refine ⟨answer, ?_, inert _⟩
    rw [starts, List.map_map]
    exact complete.hooks
  · obtain ⟨ending, answer, exits⟩ := stayed [⟨"late", .panic "no"⟩, ⟨"last", calm⟩]
    have ran : guest.run host [⟨"late", .panic "no"⟩, ⟨"last", calm⟩] [return (), return ()]
        (settled [⟨"only", calm⟩]) = ((.returned .running, 2),
          settled [⟨"only", calm⟩, ⟨"late", .panic "no"⟩, ⟨"last", calm⟩]) := rfl
    have attempted : host.attempt stage []
        (settled [⟨"only", calm⟩, ⟨"late", .panic "no"⟩, ⟨"last", calm⟩]) = (.cut (.panicked "no"),
          (host.attempt stage []
            (settled [⟨"only", calm⟩, ⟨"late", .panic "no"⟩, ⟨"last", calm⟩])).2) := rfl
    obtain ⟨rfl, -⟩ := exits.cut ran attempted
    exact ⟨answer, by decide +kernel, inert _⟩

end Rehearsal

end HostBench
