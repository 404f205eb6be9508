/-
  The acts of scenarios, one after the other in the order of their modules: each of them only uses the
  lifetime and the provider of a host without a name, if the callbacks do (`Callbacks.Spare`).
-/
import HostBench.Proofs.Scenario.Unnamed
import HostBench.Scenario.Hosting

namespace HostBench.Scenario

/-- What callbacks run only uses the lifetime and the provider of a host without a name. -/
structure Callbacks.Spare (cb : Callbacks) (home : Home) : Prop where
  perform : ∀ c, home.Spares (cb.perform c)
  resolve : ∀ provider key, home.Spares (cb.resolve provider key)

namespace Home

variable {home : Home} {cb : Callbacks} {α β : Type}

/-! ## Acts that may fail -/

theorem spares_try_bind {t : Try α} {k : α → Try β} (first : home.Spares t.run)
    (next : ∀ a, home.Spares (k a).run) : home.Spares (t >>= k).run := by
  rw [ExceptT.run_bind]
  refine home.sparing.bind first fun result => ?_
  cases result with
  | ok a => exact next a
  | error e => exact home.sparing.pure _

theorem spares_try_pure (a : α) : home.Spares (pure a : Try α).run := home.sparing.pure _

theorem spares_throw (e : Failure) : home.Spares (throw e : Try α).run := home.sparing.pure _

theorem spares_lift {m : Act α} (spares : home.Spares m) : home.Spares (liftM m : Try α).run :=
  fun w unnamed => spares w unnamed

theorem spares_act_bind {m : Act α} {k : α → Try β} (first : home.Spares m)
    (next : ∀ a, home.Spares (k a).run) : home.Spares (liftM m >>= k).run :=
  spares_try_bind (spares_lift first) next

theorem run_bind_of_ok {t : Try α} {k : α → Try β} {a : α} {w w' : World}
    (done : t.run w = (.ok a, w')) : (t >>= k).run w = (k a).run w' := by
  rw [ExceptT.run_bind]
  simp only [bind, StateT.bind, done]

theorem run_bind_of_error {t : Try α} {k : α → Try β} {e : Failure} {w w' : World}
    (failed : t.run w = (.error e, w')) : (t >>= k).run w = (.error e, w') := by
  rw [ExceptT.run_bind]
  simp only [bind, StateT.bind, failed]
  rfl

/-- The program only uses the lifetime and the provider of a host while it has no name, and what it
finds, if it does not fail, is as it should be. -/
def Finds (home : Home) (t : Try α) (Q : α → Prop) : Prop :=
  home.Yields t.run fun result => ∀ a, result = .ok a → Q a

theorem Finds.bind {t : Try α} {k : α → Try β} {Q : α → Prop} {R : β → Prop}
    (first : home.Finds t Q) (next : ∀ a, Q a → home.Finds (k a) R) : home.Finds (t >>= k) R := by
  unfold Finds
  rw [ExceptT.run_bind]
  refine Yields.bind first fun result found => ?_
  cases result with
  | ok a => exact next a (found a rfl)
  | error e => exact fun w unnamed => ⟨.refl unnamed, fun b answer => by cases answer⟩

theorem finds_of_spares {t : Try α} (spares : home.Spares t.run) : home.Finds t fun _ => True :=
  fun w unnamed => ⟨spares w unnamed, fun _ _ => trivial⟩

theorem Finds.spares {t : Try α} {Q : α → Prop} (finds : home.Finds t Q) : home.Spares t.run :=
  fun w unnamed => (finds w unnamed).1

theorem finds_pure {a : α} {Q : α → Prop} (answer : Q a) : home.Finds (pure a) Q :=
  fun _ unnamed => ⟨.refl unnamed, fun _ found => by cases found; exact answer⟩

theorem finds_throw (e : Failure) {Q : α → Prop} : home.Finds (throw e) Q :=
  fun _ unnamed => ⟨.refl unnamed, fun _ found => by cases found⟩

theorem finds_lift {m : Act α} {Q : α → Prop} (yields : home.Yields m Q) :
    home.Finds (liftM m : Try α) Q :=
  fun w unnamed => ⟨(yields w unnamed).1, fun _ found => by cases found; exact (yields w unnamed).2⟩

theorem spares_try_forM {f : α → Try PUnit} (each : ∀ a, home.Spares (f a).run) (l : List α) :
    home.Spares (l.forM f).run := by
  induction l with
  | nil => exact spares_try_pure _
  | cons a l ih => exact spares_try_bind (each a) fun _ => ih

theorem run_named (names : World → Names α) (sort name : String) (w : World) :
    (named names sort name).run w =
      (match (names w).find? name with
        | some a => .ok a
        | none => .error (.absent sort name), w) := by
  show (match (names w).find? name with
    | some a => pure a
    | none => throw (.absent sort name) : Try α).run w = _
  cases (names w).find? name <;> rfl

/-- What has a name is as it should be if all that has one of these names is. -/
theorem finds_named {names : World → Names α} {Q : α → Prop} (sort name : String)
    (all : ∀ w : World, w.Unnamed home → ∀ a ∈ (names w).objects, Q a) :
    home.Finds (named names sort name) Q := by
  intro w unnamed
  rw [run_named]
  refine ⟨.refl unnamed, fun a found => ?_⟩
  cases there : (names w).find? name with
  | none =>
    rw [there] at found
    cases found
  | some b =>
    rw [there] at found
    cases found
    exact all w unnamed a (Names.mem_of_find? there)

theorem spares_named (names : World → Names α) (sort name : String) :
    home.Spares (named names sort name).run :=
  (finds_named sort name fun _ _ _ _ => trivial).spares

theorem spares_movableClock (name : String) : home.Spares (movableClock name).run := by
  refine spares_try_bind (spares_named _ _ _) fun c => ?_
  split
  · exact spares_try_pure _
  · exact spares_throw _

theorem spares_memoryLog (name : String) : home.Spares (memoryLog name).run := by
  refine spares_try_bind (spares_named _ _ _) fun l => ?_
  split
  · exact spares_try_pure _
  · exact spares_throw _

/-! ## Reports and wakers -/

theorem spares_report (e : Trace.Event) : home.Spares (report e) :=
  spares_modify fun w => by split <;> rfl

theorem spares_note (e : JournalEntry) : home.Spares (note e) :=
  spares_modify fun _ => rfl

theorem spares_run (spare : cb.Spare home) (source : Source) (commands : List Command) :
    home.Spares (cb.run source commands) :=
  has_forM (fun c => home.sparing.bind (spare.perform c) fun _ => spares_note _) commands

theorem spares_enqueue (task : Nat) : home.Spares (enqueue task) := by
  refine spares_modify fun w => ?_
  split
  · rfl
  · rfl
  · split <;> rfl

theorem spares_wakeMain : home.Spares wakeMain :=
  spares_modify fun _ => rfl

theorem spares_runScript (spare : cb.Spare home) (waker : String) :
    home.Spares (runScript cb waker) := by
  refine home.sparing.bind spares_get fun w => ?_
  cases w.wakerScripts.find? waker with
  | some run => exact spares_run spare _ run
  | none => exact home.sparing.pure _

theorem spares_wake (spare : cb.Spare home) (w : Waker) : home.Spares (wake cb w) := by
  cases w with
  | main => exact spares_wakeMain
  | task id => exact spares_enqueue id
  | sleeper name | watcher name =>
    refine home.sparing.bind (spares_modify fun _ => rfl) fun _ => ?_
    exact spares_runScript spare name

/-! ## Clocks and futures -/

theorem spares_nameClock (name : String) (c : ClockEntry) : home.Spares (nameClock name c) :=
  spares_modify fun _ => rfl

theorem spares_allocate : home.Spares allocate :=
  fun _ unnamed => leaves_of_hosting unnamed rfl

theorem spares_newClock (origin : Instant) : home.Spares (newClock origin) :=
  fun _ unnamed => leaves_of_hosting unnamed rfl

theorem spares_clockEntry (source : TimeSource) (movable : Bool) (origin : Option Instant) :
    home.Spares (clockEntry source movable origin) :=
  home.sparing.bind spares_allocate fun _ => home.sparing.pure _

theorem open_clockAt (i : Nat) : (World.clockAt i).Open home.sparing :=
  open_of_hosting fun _ _ => rfl

theorem open_timer : World.timerPlace.Open home.sparing := open_of_hosting fun _ _ => rfl

theorem spares_abandonFuture (f : Future) : home.Spares f.abandon := by
  cases f with
  | sleep clock id => exact spares_modify fun _ => rfl
  | timer p => exact spares_modify fun _ => rfl
  | wait lifetime id => exact fun w unnamed => leaves_lifetime unnamed fun _ => .cancel _ id

/-- A wait is polled as anyone may. -/
theorem spares_pollWait (waker : Waker) (lifetime : Nat) (id : WaitId) :
    home.Spares (pollWait waker lifetime id) := by
  refine home.sparing.bind spares_get fun w => ?_
  by_cases exhausted : w.timer.exhausted = true
  · rw [if_pos exhausted]
    exact home.sparing.bind (open_timer.write _) fun _ => home.sparing.pure _
  · rw [if_neg exhausted]
    intro u unnamed
    -- the lifetime is written as the poll of the one that was read leaves it
    have polled : home.Leaves u ((World.lifetimeAt lifetime).set
        (((World.lifetimeAt lifetime).get u).poll id waker).1 u) :=
      leaves_lifetime unnamed fun _ => .poll _ id waker
    refine polled.trans ?_
    have rest : home.Spares (do
        if (((World.lifetimeAt lifetime).get u).poll id waker).2 then
          World.timerPlace.write w.timer.spend
        return (((World.lifetimeAt lifetime).get u).poll id waker).2) := by
      split
      · exact home.sparing.bind (open_timer.write _) fun _ => home.sparing.pure _
      · exact home.sparing.pure _
    exact rest _ polled.unnamed

theorem spares_pollFuture (waker : Waker) (f : Future) : home.Spares (f.poll waker) := by
  cases f with
  | sleep clock id =>
    exact home.sparing.bind (open_clockAt clock).read fun _ =>
      home.sparing.bind ((open_clockAt clock).write _) fun _ => home.sparing.pure _
  | timer p =>
    exact home.sparing.bind spares_get fun _ =>
      home.sparing.bind (open_timer.write _) fun _ => home.sparing.pure _
  | wait lifetime id =>
    exact home.sparing.bind (spares_pollWait waker lifetime id) fun _ => home.sparing.pure _

theorem spares_sleepOn (length : Duration) (source : TimeSource) :
    home.Spares (sleepOn length source) := by
  cases source with
  | fake clock =>
    exact home.sparing.bind (open_clockAt clock).read fun _ =>
      home.sparing.bind ((open_clockAt clock).write _) fun _ => home.sparing.pure _
  | system => exact home.sparing.bind spares_get fun _ => home.sparing.pure _

theorem spares_waitFor (lifetime : Nat) (goal : Goal) : home.Spares (waitFor lifetime goal) :=
  fun _ unnamed => leaves_lifetime unnamed fun _ => .wait _ goal

theorem spares_nameFuture (name : String) (f : Future) : home.Spares (nameFuture name f) := by
  refine home.sparing.bind spares_get fun w => ?_
  refine home.sparing.bind (spares_modify fun _ => rfl) fun _ => ?_
  cases w.futureNames.find? name with
  | some old => exact spares_abandonFuture old
  | none => exact home.sparing.pure _

theorem spares_forgetFuture (name : String) : home.Spares (forgetFuture name) :=
  spares_modify fun _ => rfl

/-! ## Tasks -/

theorem spares_newTask (t : TaskState) : home.Spares (newTask t) := by
  refine home.sparing.bind spares_get fun w => ?_
  refine home.sparing.bind (spares_modify fun _ => rfl) fun _ => ?_
  exact home.sparing.bind (spares_enqueue _) fun _ => home.sparing.pure _

theorem spares_setTask (task : Nat) (t : TaskState) : home.Spares (setTask task t) :=
  spares_modify fun _ => rfl

theorem spares_runWhenOver (spare : cb.Spare home) (task : Nat) (p : Pause) (run : List Command) :
    home.Spares (runWhenOver cb task p run) := by
  refine home.sparing.bind spares_get fun w => ?_
  obtain ⟨t, later, ended⟩ := w.timer.poll p (.task task)
  refine home.sparing.bind (open_timer.write t) fun _ => ?_
  cases ended with
  | true => exact home.sparing.bind (spares_setTask _ _) fun _ => spares_run spare _ run
  | false => exact spares_setTask _ _

theorem spares_watchOn (task lifetime : Nat) (goal : Goal) (id : WaitId) :
    home.Spares (watchOn task lifetime goal id) := by
  refine home.sparing.bind (spares_pollWait _ lifetime id) fun ready => ?_
  cases ready with
  | true =>
    refine home.sparing.bind spares_get fun w => ?_
    refine home.sparing.bind (spares_setTask _ _) fun _ => ?_
    refine home.sparing.bind spares_get fun w => ?_
    split
    · exact spares_wakeMain
    · exact home.sparing.pure _
  | false => exact spares_setTask _ _

theorem spares_takeTurn (spare : cb.Spare home) (task : Nat) : home.Spares (takeTurn cb task) := by
  refine home.sparing.bind spares_get fun w => ?_
  split
  · exact home.sparing.bind spares_get fun _ => spares_runWhenOver spare _ _ _
  · exact spares_runWhenOver spare _ _ _
  · exact spares_watchOn _ _ _ _
  · rename_i lifetime goal _
    intro u unnamed
    have waits : home.Leaves u ((World.lifetimeAt lifetime).set
        (((World.lifetimeAt lifetime).get u).wait goal).1 u) :=
      leaves_lifetime unnamed fun _ => .wait _ goal
    exact waits.trans (spares_watchOn task lifetime goal _ _ waits.unnamed)
  · exact home.sparing.pure _

/-! ## Services -/

theorem spares_hold (s : Service) : home.Spares (hold s) := spares_modify fun _ => rfl

theorem spares_letGo (s : Service) : home.Spares (letGo s) := spares_modify fun _ => rfl

theorem spares_collect (spare : cb.Spare home) : home.Spares (collect cb) := by
  have drops : ∀ probes : List Probe, home.Spares (probes.forM fun p => do
      modify fun w => { w with dropped := w.dropped.push p.label }
      cb.run (.drop p.label) p.run) :=
    has_forM fun p => home.sparing.bind (spares_modify fun _ => rfl) fun _ => spares_run spare _ p.run
  refine spares_of_get fun w unnamed => ?_
  by_cases none : w.probes.isEmpty = true
  · rw [if_pos none]
    exact .refl unnamed
  · rw [if_neg none]
    -- the world is put down as it was read, but for the probes
    have kept : home.Leaves w { w with
        probes := (w.probes.partition fun p => w.held.contains p.allocation).1 } :=
      leaves_of_hosting unnamed rfl
    exact kept.trans (drops _ _ kept.unnamed)

theorem spares_newService (c : Content) : home.Spares (newService c) :=
  home.sparing.bind spares_allocate fun _ => home.sparing.pure _

theorem spares_newProbe (label : String) (run : List Command) : home.Spares (newProbe label run) :=
  home.sparing.bind (spares_newService _) fun _ =>
    home.sparing.bind (spares_modify fun _ => rfl) fun _ => home.sparing.pure _

theorem spares_serviceOf (kind : ValueKind) (name : String) :
    home.Spares (serviceOf kind name).run := by
  cases kind with
  | fakeClock =>
    exact spares_try_bind (spares_movableClock name) fun _ => spares_lift (spares_newService _)
  | clock => exact spares_try_bind (spares_named _ _ _) fun _ => spares_try_pure _
  | memoryLog =>
    exact spares_try_bind (spares_memoryLog name) fun _ => spares_lift (spares_newService _)
  | eventLog =>
    exact spares_try_bind (spares_named _ _ _) fun _ => spares_lift (spares_newService _)
  | lifetime =>
    exact spares_try_bind (spares_named _ _ _) fun _ => spares_lift (spares_newService _)
  | _ =>
    refine spares_try_bind (spares_named _ _ _) fun s => ?_
    split
    · exact spares_try_pure _
    · exact spares_throw _

theorem spares_make (needs : List String) (o : Offer Command) : home.Spares (o.make needs).run := by
  cases o with
  | plain v => exact spares_lift (spares_newService _)
  | string s => exact spares_lift (spares_newService _)
  | probe label run => exact spares_lift (spares_newProbe _ run)
  | object kind name => exact spares_serviceOf kind name

theorem spares_entryOf (r : Registration Command) : home.Spares (entryOf r).run := by
  have counted : home.Spares (do
      let counter := (← getThe World).calls.size
      modify fun w => { w with calls := w.calls.push 0 }
      let f : Factory := ⟨r.key, counter, r.run, r.needs.map (·.capability), r.failure, r.offer⟩
      return if r.lifetime = .singleton then .singleton f else .transient f :
        Try (Entry Service Factory)).run :=
    spares_act_bind spares_get fun _ =>
      spares_act_bind (spares_modify fun _ => rfl) fun _ => spares_try_pure _
  unfold entryOf
  cases r.lifetime with
  | fixed => exact spares_try_bind (spares_make [] r.offer) fun _ => spares_try_pure _
  | singleton => exact counted
  | transient => exact counted

theorem spares_register (spare : cb.Spare home) (registry : Registry Service Factory)
    (key : Capability) (e : Entry Service Factory) : home.Spares (register cb registry key e) := by
  unfold register
  cases registry.register key e with
  | error err => exact home.sparing.bind (spares_collect spare) fun _ => home.sparing.pure _
  | ok registry => exact home.sparing.bind (spares_report _) fun _ => home.sparing.pure _

theorem spares_showNeeds (spare : cb.Spare home) (provider : Nat) (needs : List Capability) :
    home.Spares (showNeeds cb provider needs) := by
  induction needs with
  | nil => exact home.sparing.pure _
  | cons key rest ih =>
    refine home.sparing.bind (spare.resolve provider key) fun result => ?_
    cases result with
    | error e => exact home.sparing.pure _
    | ok s =>
      refine home.sparing.bind spares_get fun w => ?_
      refine home.sparing.bind (spares_letGo s) fun _ => ?_
      refine home.sparing.bind (spares_collect spare) fun _ => ?_
      refine home.sparing.bind ih fun texts => ?_
      cases texts <;> exact home.sparing.pure _

theorem spares_callFactory (spare : cb.Spare home) (provider : Nat) (f : Factory) :
    home.Spares (callFactory cb provider f) := by
  refine home.sparing.bind spares_get fun w => ?_
  refine home.sparing.bind (spares_modify fun _ => rfl) fun _ => ?_
  refine home.sparing.bind (spares_note _) fun _ => ?_
  refine home.sparing.bind (spares_run spare _ f.run) fun _ => ?_
  refine home.sparing.bind (spares_showNeeds spare provider f.needs) fun needs => ?_
  cases needs with
  | error e => exact home.sparing.pure _
  | ok needs =>
    dsimp only
    split
    · exact home.sparing.pure _
    · refine home.sparing.bind (spares_make needs f.offer) fun made => ?_
      cases made <;> exact home.sparing.pure _

/-- Whoever resolves in the provider of the host keeps singletons there, as anyone may; the other
providers do not matter. -/
theorem spares_resolve (spare : cb.Spare home) (provider : Nat) (key : Capability) :
    home.Spares (resolve cb provider key) := by
  have calls := spares_callFactory spare provider
  have resolves : home.Spares (Provider.resolve (World.providerAt provider) (callFactory cb provider)
      (fun key lifetime => report (.serviceCreated key.typeName lifetime.text)) key) := by
    by_cases own : provider = home.provider
    · subst own
      intro w unnamed
      exact Provider.keeps_resolve_of_uses (fun _ leaves => leaves.provider)
        (fun _ _ leaves use => leaves.trans (leaves_provider leaves.unnamed fun _ => use))
        (fun f _ leaves => leaves.trans (calls f _ leaves.unnamed))
        (fun _ _ _ leaves => leaves.trans (spares_report _ _ leaves.unnamed)) key (.refl unnamed)
    · exact has_resolve ⟨fun _ unnamed => .refl unnamed,
        fun _ _ unnamed => leaves_provider unnamed fun same => absurd same own⟩ calls
        (fun _ _ => spares_report _) key
  refine home.sparing.bind resolves fun result => ?_
  cases result with
  | ok s => exact home.sparing.bind (spares_hold s) fun _ => home.sparing.pure _
  | error e => exact home.sparing.bind (spares_collect spare) fun _ => home.sparing.pure _

/-! ## Routines -/

theorem spares_pollHold (waker : Waker) (h : Hold) : home.Spares (h.poll waker) := by
  cases h with
  | future f => exact home.sparing.bind (spares_pollFuture waker f) fun _ => home.sparing.pure _
  | never => exact home.sparing.pure _

theorem spares_beginHold {t : Try Future} (spares : home.Spares t.run) :
    home.Spares (beginHold t) := by
  refine home.sparing.bind spares fun result => ?_
  cases result <;> exact home.sparing.pure _

theorem spares_begin (spare : cb.Spare home) (c : RoutineCommand Command) :
    home.Spares (c.begin cb) := by
  cases c with
  | sleep length => exact spares_beginHold (spares_lift (spares_sleepOn length .system))
  | clockSleep clock length =>
    exact spares_beginHold <| spares_try_bind (spares_named _ _ _) fun _ =>
      spares_lift (spares_sleepOn length _)
  | pending => exact home.sparing.pure _
  | wait lifetime goal =>
    exact spares_beginHold <| spares_try_bind (spares_named _ _ _) fun _ =>
      spares_lift (spares_waitFor _ goal)
  | fail message => exact home.sparing.pure _
  | panic message => exact home.sparing.pure _
  | must c =>
    refine home.sparing.bind (spare.perform c) fun answer => ?_
    cases answer <;> exact home.sparing.pure _

theorem spares_proceed (spare : cb.Spare home) (waker : Waker) (source : Source)
    (commands : List Command) : home.Spares (Routine.proceed cb waker source commands) := by
  induction commands with
  | nil => exact home.sparing.pure _
  | cons c rest ih =>
    have runs : home.Spares (do
        cb.run source [c]
        Routine.proceed cb waker source rest) :=
      home.sparing.bind (spares_run spare source [c]) fun _ => ih
    unfold Routine.proceed
    split
    · rename_i r
      split
      · refine home.sparing.bind (spares_begin spare r) fun begun => ?_
        cases begun with
        | holding h =>
          refine home.sparing.bind (spares_pollHold waker h) fun (h, ready) => ?_
          cases ready with
          | true => exact ih
          | false => exact home.sparing.pure _
        | failed e => exact home.sparing.pure _
        | panicked message => exact home.sparing.pure _
        | done => exact ih
      · exact runs
    · exact runs

theorem spares_pollRoutine (spare : cb.Spare home) (waker : Waker) (r : Routine) :
    home.Spares (r.poll cb waker) := by
  unfold Routine.poll
  cases r.hold with
  | none => exact spares_proceed spare waker r.source r.rest
  | some h =>
    refine home.sparing.bind (spares_pollHold waker h) fun (h, ready) => ?_
    cases ready with
    | true => exact spares_proceed spare waker r.source r.rest
    | false => exact home.sparing.pure _

theorem spares_abandonRoutine (r : Routine) : home.Spares r.abandon := by
  unfold Routine.abandon
  cases r.hold with
  | none => exact home.sparing.pure _
  | some h =>
    cases h with
    | future f => exact spares_abandonFuture f
    | never => exact home.sparing.pure _

end Home

end HostBench.Scenario
