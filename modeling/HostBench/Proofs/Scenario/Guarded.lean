/-
  Hosts in scenarios. The stage of a scenario guards a host while it has no name, as it has none while
  it is disposed or while its scope is entered (`guarded`): whatever the commands of hooks, wakers,
  factories and dropped probes do, and whatever the tasks in the background do between two polls
  (`spares_giveTurns`, `spares_between`), they only use its lifetime and its provider. It is not sound
  in the sense of `HostStage.Sound`, which is said of all routines: a routine is a value, and one that
  is made up may give up an alarm that it never set.

  So what is proved of guarded hosts holds of the hosts of scenarios. Whatever is done with such a host
  from its build on, it is open, closed or gone (`stands_of_run`), and a step that disposes it ends with
  its services released, if it answers with a report, or leaves it where its hooks were
  (`ensures_toEnd`).
-/
import HostBench.Proofs.Scenario.Commands
import HostBench.Scenario.Turns

namespace HostBench.Scenario

namespace Home

variable {home : Home} {cb : Callbacks} {α : Type} {n depth : Nat}

/-! ## Between two polls -/

theorem spares_inOneTurn {act : Act α} (spares : home.Spares act) : home.Spares (inOneTurn act) :=
  home.sparing.bind (spares_modify fun _ => rfl) fun _ =>
    home.sparing.bind spares fun _ =>
      home.sparing.bind (spares_modify fun _ => rfl) fun _ => home.sparing.pure _

theorem spares_giveTurns (spare : cb.Spare home) (left : Nat) : home.Spares (giveTurns cb left) := by
  induction left with
  | zero => exact home.sparing.pure _
  | succ left ih =>
    refine home.sparing.bind spares_get fun w => ?_
    obtain ⟨roster, called⟩ := w.roster.call
    refine home.sparing.bind (spares_modify fun _ => rfl) fun _ => ?_
    cases called with
    | some task =>
      exact home.sparing.bind (spares_inOneTurn (spares_takeTurn spare task)) fun _ => ih
    | none => exact home.sparing.pure _

theorem spares_ringAlarms (spare : cb.Spare home) (fuel : Nat) : home.Spares (ringAlarms cb fuel) := by
  induction fuel with
  | zero => exact home.sparing.pure _
  | succ fuel ih =>
    refine home.sparing.bind spares_get fun w => ?_
    split
    · exact home.sparing.pure _
    · exact home.sparing.bind (open_timer.write _) fun _ =>
        home.sparing.bind (has_forM (spares_wake spare) _) fun _ => ih

theorem spares_moveOn (spare : cb.Spare home) (point : Millis) : home.Spares (moveOn cb point) := by
  refine spares_of_get fun w unnamed => ?_
  by_cases roused : w.roused = true
  · rw [if_pos roused]
    exact leaves_of_hosting unnamed rfl
  · rw [if_neg roused]
    have moved : home.Leaves w { w with timer := { w.timer with now := point } } :=
      leaves_of_hosting unnamed rfl
    exact moved.trans (spares_ringAlarms spare _ _ moved.unnamed)

theorem spares_wakeDeferred (spare : cb.Spare home) : home.Spares (wakeDeferred cb) := by
  refine spares_of_get fun w unnamed => ?_
  have cleared : home.Leaves w { w with timer := { w.timer with deferred := [] }, roused := false } :=
    leaves_of_hosting unnamed rfl
  exact cleared.trans
    (has_forM (spares_wake spare) w.timer.deferred.reverse _ cleared.unnamed)

/-- The tasks have their turns, and the timer moves on. -/
theorem spares_between (spare : cb.Spare home) (idle : Bool) : home.Spares (betweenRounds cb idle) := by
  refine home.sparing.bind spares_get fun w => ?_
  split
  · exact home.sparing.bind (spares_wakeDeferred spare) fun _ => home.sparing.pure _
  · split
    · exact home.sparing.pure _
    · exact home.sparing.bind (spares_moveOn spare _) fun _ => home.sparing.pure _

/-- What does not depend on the timer lasts through the beginning and the end of a turn. -/
theorem ensures_inOneTurn {act : Act α} {P : World → Prop} {Q : α → World → Prop}
    (ensures : Ensures P act Q) (before : ∀ t w, P w → P (World.timerPlace.set t w))
    (after : ∀ a t w, Q a w → Q a (World.timerPlace.set t w)) : Ensures P (inOneTurn act) Q := by
  intro w holds
  have begun := before { w.timer with budget := some Timer.turnBudget } w holds
  exact after _ _ _ (ensures _ begun)

/-! ## The stage -/

theorem sustains (home : Home) (depth : Nat) :
    (stage (callbacks depth)).Sustains (·.Unnamed home) := by
  have spare := spare_callbacks home depth
  have keeps : ∀ {β : Type} {m : Act β}, home.Spares m → Keeps (·.Unnamed home) m :=
    fun spares w unnamed => (spares w unnamed).unnamed
  exact {
    timer := fun _ _ unnamed => ⟨unnamed.lifetime_lt, unnamed.provider_lt, unnamed.other⟩
    report := fun e => keeps (spares_report e)
    poll := fun r => keeps (spares_pollRoutine spare .main r)
    abandon := fun r => keeps (spares_abandonRoutine r)
    provider := fun i p _ unnamed => unnamed_provider unnamed i p
    lifetime := fun i l _ unnamed => unnamed_lifetime unnamed i l
    wake := fun w => keeps (spares_wake spare w)
    discard := keeps (spares_collect spare) }

theorem minds_of_spares {m : Act α} (spares : home.Spares m) :
    (stage cb).MindsWhere (·.Unnamed home) home.lifetime home.provider m :=
  fun w unnamed => ⟨(spares w unnamed).unnamed, (spares w unnamed).lifetime,
    (spares w unnamed).provider⟩

/-- The stage of a scenario guards a host while it has no name. -/
theorem guardedWhere (home : Home) (depth : Nat) :
    (stage (callbacks depth)).GuardedWhere (·.Unnamed home) home.lifetime home.provider := by
  have spare := spare_callbacks home depth
  exact {
    sustains := sustains home depth
    lifetime_set := fun l w unnamed => by
      show (w.lifetimes.setIfInBounds home.lifetime l).getD home.lifetime default = l
      simp [unnamed.lifetime_lt]
    lifetime_timer := fun _ _ _ => rfl
    lifetime_provider := fun _ _ _ => rfl
    provider_set := fun p w unnamed => by
      show (w.providers.setIfInBounds home.provider p).getD home.provider default = p
      simp [unnamed.provider_lt]
    provider_timer := fun _ _ _ => rfl
    provider_lifetime := fun _ _ _ => rfl
    poll := fun r w unnamed => (minds_of_spares (spares_pollRoutine spare .main r) w unnamed).2
    abandon := fun r w unnamed => (minds_of_spares (spares_abandonRoutine r) w unnamed).2
    report := fun e w unnamed => (minds_of_spares (spares_report e) w unnamed).2
    wake := fun x w unnamed => (minds_of_spares (spares_wake spare x) w unnamed).2
    discard := fun w unnamed => (minds_of_spares (spares_collect spare) w unnamed).2 }

/-- So it does in the usual sense on the worlds in which the host has no name. -/
theorem guarded (home : Home) (depth : Nat) :
    ((stage (callbacks depth)).within (sustains home depth)).Guarded home.lifetime home.provider :=
  (guardedWhere home depth).guarded

/-! ## Hosts from their build on -/

/-- A host with `n` services has no name and is in an era. -/
def During (home : Home) (depth n : Nat) (era : Era) (w : World) : Prop :=
  w.Unnamed home ∧ (stage (callbacks depth)).In home.lifetime home.provider n era w

theorem unfolds (home : Home) (depth n : Nat) :
    (stage (callbacks depth)).Unfolds home.lifetime home.provider home.Spares
      (home.During depth n) n := by
  have unfolds := (guardedWhere home depth).unfolds n
  exact { unfolds with around := fun m spares => unfolds.around m (minds_of_spares spares) }

/-- A host that has just been put somewhere has no name, if the hosts that have one are kept at places
that are there. -/
theorem during_putHost {w : World} (p : Blueprint Service Factory Body Waker)
    (running : p.lifetime.phase = .running)
    (housed : ∀ h ∈ w.hostNames.objects,
      h.lifetime < w.lifetimes.size ∧ h.provider < w.providers.size) (depth : Nat) :
    During ⟨w.lifetimes.size, w.providers.size⟩ depth p.registry.size .running (putHost p w).2 := by
  have lifetime : (World.lifetimeAt w.lifetimes.size).get (putHost p w).2 = p.lifetime := by
    show (w.lifetimes.push p.lifetime).getD w.lifetimes.size default = p.lifetime
    simp
  have provider : (World.providerAt w.providers.size).get (putHost p w).2 = .ofRegistry p.registry := by
    show (w.providers.push (.ofRegistry p.registry)).getD w.providers.size default = _
    simp
  refine ⟨⟨?_, ?_, fun h hh => ?_⟩, ?_, ?_, ?_⟩
  · show w.lifetimes.size < (w.lifetimes.push p.lifetime).size
    simp
  · show w.providers.size < (w.providers.push (.ofRegistry p.registry)).size
    simp
  · exact ⟨Nat.ne_of_lt (housed h hh).1, Nat.ne_of_lt (housed h hh).2⟩
  · exact (congrArg Lifetime.phase lifetime).trans running
  · exact congrArg Provider.isReleased provider
  · exact congrArg Provider.size provider

/-- Whatever is done with a host from its build on, it has no name after that, and it is open, closed
or gone. -/
theorem stands_of_run {settings : Settings} {w : World} {e : Estate World}
    (running : home.During depth n .running w)
    (run : Estate.Run (stage (callbacks depth)) home.Spares
      (.built settings home.provider home.lifetime w) e) :
    e.state.Unnamed home ∧ (e.Open (stage (callbacks depth)) n ∨
      (∃ report, e.Closed (stage (callbacks depth)) n report) ∨ e.Gone (stage (callbacks depth))) := by
  have begins : (Estate.built settings home.provider home.lifetime w).Stands (home.During depth n)
      home.lifetime home.provider n := ⟨rfl, rfl, .opened rfl rfl rfl rfl running⟩
  have stands := run.stands (unfolds home depth n) begins
  obtain ⟨era, unnamed, -⟩ := stands.agrees.exists_era
  exact ⟨unnamed, (stands.imp fun _ _ during => during.2).cases⟩

/-! ## Steps that dispose a host -/

theorem spares_fresh : home.Spares fresh :=
  home.sparing.bind spares_get fun _ => home.sparing.pure _

theorem keeps_during {m : Act α} (spares : home.Spares m) (era : Era) :
    Keeps (home.During depth n era) m := by
  have minds : (stage (callbacks depth)).MindsWhere (·.Unnamed home) home.lifetime home.provider m :=
    minds_of_spares spares
  exact fun w during => ⟨(minds w during.1).1, during.2.uses (minds w during.1).2⟩

/-- Where a host has its lifetime and its provider. -/
def ofHost (h : Host) : Home := ⟨h.lifetime, h.provider⟩

/-- How a step has left a host that it disposes: with its report, and then its services are released,
or where its hooks were. -/
def Disposed (depth n : Nat) (name : String) (h : Host) (e : Ending) (w : World) : Prop :=
  (∃ report, e = ⟨.ok (reportJson report), some (name, h.reporting report)⟩ ∧ report.released = n ∧
    (ofHost h).During depth n .released w) ∨
  ((e.host = none ∨ e.host = some (name, h)) ∧ (ofHost h).During depth n .stopping w)

/-- How a step stands with a host that it disposes. -/
def Disposing (depth n : Nat) (name : String) (h : Host) : Turn → World → Prop
  | .waits b, w => (∃ limit s, b = .disposing name limit ⟨h, s⟩) ∧
      (ofHost h).During depth n .stopping w
  | .ends e, w => Disposed depth n name h e w

section
variable {name : String} {limit : Option Pause} {h : Host}

theorem keeps_disposing {m : Act α} (spares : (ofHost h).Spares m) (turn : Turn) :
    Keeps (Disposing depth n name h turn) m := by
  intro w stands
  cases turn with
  | waits b => exact ⟨stands.1, keeps_during spares .stopping w stands.2⟩
  | ends e =>
    rcases stands with ⟨report, ended, counted, released⟩ | ⟨ended, stopping⟩
    · exact .inl ⟨report, ended, counted, keeps_during spares .released w released⟩
    · exact .inr ⟨ended, keeps_during spares .stopping w stopping⟩

theorem ensures_disposalTurn (before : Bool)
    (step : Step (Disposal Body Routine) (Host × ShutdownReport)) :
    Ensures (h.Left ((ofHost h).During depth n) n step)
      (disposalTurn (callbacks depth) before name limit h step) (Disposing depth n name h) := by
  have composed := composed (spare_callbacks (ofHost h) depth)
  cases step with
  | done x =>
    obtain ⟨h', report⟩ := x
    rintro w ⟨rfl, counted, released⟩
    exact .inl ⟨report, rfl, counted, keeps_during (composed.has_lift limit) .released w released⟩
  | panicked message =>
    exact fun w stopping => .inr ⟨.inr rfl, keeps_during (composed.has_lift limit) .stopping w stopping⟩
  | waiting d =>
    obtain ⟨h', s⟩ := d
    rintro w ⟨rfl, stopping⟩
    revert w
    refine Ensures.bind (keeps_during (composed.has_isUp before limit) .stopping) fun (limit, up) => ?_
    cases up with
    | true =>
      exact Ensures.bind (keeps_during (composed.has_abandonShutdown s) .stopping) fun _ w stopping =>
        .inr ⟨.inr rfl, stopping⟩
    | false => exact fun w stopping => ⟨⟨limit, s, rfl⟩, stopping⟩

theorem ensures_pollBlocked (s : Shutdown Body Routine) :
    Ensures ((ofHost h).During depth n .stopping)
      ((Blocked.disposing name limit ⟨h, s⟩).poll (callbacks depth)) (Disposing depth n name h) := by
  refine Ensures.bind (keeps_during spares_fresh .stopping) fun before => ?_
  refine Ensures.bind (Host.ensures_pollDisposal (unfolds (ofHost h) depth n) s) fun step => ?_
  exact ensures_disposalTurn before step

theorem ensures_askAgain (s : Shutdown Body Routine) :
    Ensures ((ofHost h).During depth n .stopping)
      (askAgain (callbacks depth) (.disposing name limit ⟨h, s⟩)) (Disposing depth n name h) := by
  refine Ensures.bind (keeps_during spares_get .stopping) fun w => ?_
  split
  · refine Ensures.bind (keeps_during (spares_modify ?_) .stopping) fun _ => ?_
    · exact fun _ => rfl
    · exact ensures_inOneTurn (ensures_pollBlocked s)
        (fun t => keeps_during (open_timer.write t) .stopping)
        fun turn t => keeps_disposing (open_timer.write t) turn
  · exact fun w stopping => ⟨⟨limit, s, rfl⟩, stopping⟩

/-- However often a step is asked again that disposes a host, it leaves it with its report or where its
hooks were. -/
theorem ensures_drive (fuel : Nat) (s : Shutdown Body Routine) :
    Ensures ((ofHost h).During depth n .stopping)
      (drive (callbacks depth) fuel (.disposing name limit ⟨h, s⟩)) (Disposed depth n name h) := by
  have spare := spare_callbacks (ofHost h) depth
  induction fuel generalizing limit s with
  | zero => exact fun w stopping => .inr ⟨.inl rfl, stopping⟩
  | succ fuel ih =>
    refine Ensures.bind (keeps_during (spares_giveTurns spare _) .stopping) fun idle => ?_
    refine Ensures.bind (keeps_during (spares_between spare idle) .stopping) fun going => ?_
    cases going with
    | false => exact fun w stopping => .inr ⟨.inl rfl, stopping⟩
    | true =>
      refine (ensures_askAgain s).bind fun turn => ?_
      cases turn with
      | ends e => exact fun _ stands => stands
      | waits b =>
        rintro w ⟨⟨limit, s, rfl⟩, stopping⟩
        exact ih s w stopping

theorem ensures_dispose (unreported : h.report = none) :
    Ensures (fun w => (ofHost h).During depth n .running w ∨ (ofHost h).During depth n .stopping w)
      (h.dispose (stage (callbacks depth))) (h.Left ((ofHost h).During depth n) n) := by
  have unfolds := unfolds (ofHost h) depth n
  intro w stands
  rw [Host.dispose_of_fresh unreported]
  exact Host.ensures_pollDisposal unfolds _ _ (Host.ensures_enterStopping unfolds w stands)

/-- A host that has a name and no report, and that is kept elsewhere than the others that have one, is
about to be disposed. -/
structure Named (depth n : Nat) (name : String) (h : Host) (w : World) : Prop where
  named : w.hostNames.find? name = some h
  unreported : h.report = none
  stands : (ofHost h).During depth n .running { w with hostNames := w.hostNames.erase name } ∨
    (ofHost h).During depth n .stopping { w with hostNames := w.hostNames.erase name }

theorem ensures_begin :
    Ensures (Named depth n name h) (BlockingCommand.begin (callbacks depth) (.dispose name)).run
      fun result w => ∃ turn, result = .ok turn ∧ Disposing depth n name h turn w := by
  intro w ⟨named, unreported, stands⟩
  have found := run_named (·.hostNames) "hosts" name w
  rw [named] at found
  have taken : (takeHost name).run w = (.ok h, { w with hostNames := w.hostNames.erase name }) :=
    run_bind_of_ok found
  have disposes : Ensures
      (fun w => (ofHost h).During depth n .running w ∨ (ofHost h).During depth n .stopping w)
      (do
        let before ← fresh
        disposalTurn (callbacks depth) before name none h (← h.dispose (stage (callbacks depth))))
      (Disposing depth n name h) := by
    refine Ensures.bind (R := fun _ w =>
      (ofHost h).During depth n .running w ∨ (ofHost h).During depth n .stopping w) ?_ fun before => ?_
    · exact fun w stands =>
        stands.imp (keeps_during spares_fresh .running w) (keeps_during spares_fresh .stopping w)
    · exact (ensures_dispose unreported).bind fun step => ensures_disposalTurn before step
  show ∃ turn, (((takeHost name >>= _ : Try Turn)).run w).1 = _ ∧
    Disposing depth n name h turn (((takeHost name >>= _ : Try Turn)).run w).2
  rw [run_bind_of_ok taken]
  exact ⟨_, rfl, disposes _ stands⟩

/-- **A step that disposes the host of a name** ends with a report, and then all services are released,
or leaves the host where its hooks were. -/
theorem ensures_toEnd :
    Ensures (Named depth n name h) (BlockingCommand.toEnd (callbacks depth) (.dispose name))
      (Disposed depth n name h) := by
  refine Ensures.bind (ensures_inOneTurn ensures_begin ?_ ?_) fun result => ?_
  · rintro t w ⟨named, unreported, stands⟩
    refine ⟨named, unreported, ?_⟩
    exact stands.imp (keeps_during (open_timer.write t) .running _)
      (keeps_during (open_timer.write t) .stopping _)
  · rintro result t w ⟨turn, ended, stands⟩
    exact ⟨turn, ended, keeps_disposing (open_timer.write t) turn w stands⟩
  · rintro w ⟨turn, rfl, stands⟩
    cases turn with
    | ends e => exact stands
    | waits b =>
      obtain ⟨⟨limit, s, rfl⟩, stopping⟩ := stands
      exact ensures_drive roundLimit s w stopping

end

end Home

/-! ## The first host of a scenario -/

namespace Opening

/-- A host with one service and one hook, which never ends. -/
def blueprint : Blueprint Service Factory Body Waker where
  settings := .default
  registry := ⟨[(⟨"greeting"⟩, .fixed ⟨0, .plain (.string "hello")⟩)]⟩
  lifetime := ⟨.running, [⟨"flush", [.routine .pending]⟩], []⟩
  eventLog := none

def host : Host := .new .default 0 0

/-- The first host of a scenario has got its name. -/
def world : World :=
  { (putHost blueprint World.initial).2 with hostNames := World.initial.hostNames.insert "api" host }

theorem named (depth : Nat) : Home.Named depth 1 "api" host world where
  named := rfl
  unreported := rfl
  stands := .inl <| Home.during_putHost (w := World.initial) blueprint rfl
    (fun _ hh => absurd hh List.not_mem_nil) depth

theorem disposed (depth : Nat) :
    Home.Disposed depth 1 "api" host
      (BlockingCommand.toEnd (callbacks depth) (.dispose "api") world).1
      (BlockingCommand.toEnd (callbacks depth) (.dispose "api") world).2 :=
  Home.ensures_toEnd world (named depth)

example : (BlockingCommand.toEnd (callbacks 1) (.dispose "api") world).1.host.map (·.2.report) =
    some (some ⟨[⟨"flush", .timedOut, .ofSeconds 5⟩], 1⟩) := by decide +kernel

end Opening

end HostBench.Scenario
