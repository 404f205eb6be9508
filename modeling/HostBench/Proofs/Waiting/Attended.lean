/-
  The waits for the phase of a host over its whole history. Where everybody else comes to the lifetime
  of a host by the operations on it (`HostStage.Attended`), what the host itself does to its lifetime
  are such operations, too: an attempt to dispose it begins to stop it, and its end or a drop stops it
  for good. Whoever is to be woken by that is woken before the host goes on, with all that they do then
  (`reached_wakes`).

  So a host that is resolved from, disposed, cut short and dropped in any order leaves its lifetime as
  a run of operations does, and nobody is left who is to be woken (`Estate.Run.attended`). What holds of
  such runs then holds of whole histories of a host: no signal is lost, and once the host has stopped
  nobody is left waiting (`Estate.Run.noneLost`, `Estate.Run.woken_of_stopped`). A lobby is a stage where
  all that happens, with hooks that wait for the phase themselves and guests who ask again as soon as
  they are woken (`Lobby.attended`).
-/
import HostBench.Proofs.Disposal.Obeyed
import HostBench.Proofs.Waiting.Vigil

namespace HostBench

variable {σ H ρ V F W α : Type}

/-! ## Lifetimes whose waits are watched -/

namespace Vigil

variable {v : Vigil H W}

/-- The lifetime goes on to another one. Where the phase changes, those who wait are to be woken. -/
def goTo (v : Vigil H W) (l : Lifetime H W) : Vigil H W :=
  v.goOn l (if l.phase = v.lifetime.phase then [] else v.lifetime.wakers)

theorem goTo_of_same_phase {l : Lifetime H W} (same : l.phase = v.lifetime.phase) :
    v.goTo l = { v with lifetime := l } := by
  simp [goTo, goOn, same]

theorem goTo_of_register {hook : Hook H} {l : Lifetime H W}
    (accepted : v.lifetime.register hook = .ok l) : v.goTo l = { v with lifetime := l } := by
  have same : l.phase = v.lifetime.phase := by
    obtain ⟨-, rfl⟩ := Lifetime.register_eq_ok_iff.mp accepted
    rfl
  exact goTo_of_same_phase same

variable [DecidableEq W]

theorem goTo_register {hook : Hook H} {l : Lifetime H W}
    (accepted : v.lifetime.register hook = .ok l) :
    v.goTo l = (LifetimeOp.register hook).perform v := by
  rw [goTo_of_register accepted]
  simp only [LifetimeOp.perform, accepted]

theorem goTo_beginStopping (v : Vigil H W) :
    v.goTo v.lifetime.beginStopping.1 = LifetimeOp.beginStopping.perform v := by
  by_cases running : v.lifetime.phase = .running
  · simp [goTo, LifetimeOp.perform, Lifetime.beginStopping, Lifetime.enter, Lifetime.wakers, running]
  · simp [goTo, LifetimeOp.perform, Lifetime.beginStopping_of_ne_running running]

/-- A host that has stopped already has nobody to wake. -/
theorem Faithful.goTo_markStopped (faithful : v.Faithful) :
    v.goTo v.lifetime.markStopped.1 = LifetimeOp.markStopped.perform v := by
  have phase_eq : v.lifetime.markStopped.1.phase = .stopped := rfl
  have woken_eq : v.lifetime.markStopped.2 = v.lifetime.wakers := rfl
  unfold goTo LifetimeOp.perform
  rw [phase_eq, woken_eq]
  by_cases stopped : v.lifetime.phase = .stopped
  · rw [faithful.wakers_of_stopped stopped, ite_self]
  · rw [if_neg fun same => stopped same.symm]

end Vigil

/-- An operation that leaves the phase as it is and wakes nobody. -/
def LifetimeOp.isQuiet : LifetimeOp H W → Bool
  | .beginStopping | .markStopped | .wake _ => false
  | _ => true

theorem LifetimeOp.owed_perform [DecidableEq W] {op : LifetimeOp H W} (quiet : op.isQuiet = true)
    (v : Vigil H W) : (op.perform v).owed = v.owed := by
  cases op with
  | register hook => cases accepted : v.lifetime.register hook <;> simp only [perform, accepted]
  | wait goal => rfl
  | poll id w =>
    by_cases held : Glimpse.isHeld v.glimpses id = true
    · rw [Vigil.perform_poll held]
      rfl
    · rw [Vigil.perform_poll_of_not_held held]
  | drop id =>
    by_cases held : Glimpse.isHeld v.glimpses id = true
    · rw [Vigil.perform_drop held]
      rfl
    · rw [Vigil.perform_drop_of_not_held held]
  | beginStopping | markStopped | wake w => cases quiet

/-- Where a lifetime is kept whose waits are watched. -/
def Place.vigil (place : Place σ (Vigil H W)) : Place σ (Lifetime H W) :=
  ⟨fun s => (place.get s).lifetime, fun l s => place.set ((place.get s).goTo l) s⟩

section
variable [DecidableEq W] {place : Place σ (Vigil H W)}

/-- Does something with a lifetime whose waits are watched. -/
def attend (place : Place σ (Vigil H W)) (op : LifetimeOp H W) : StateM σ Unit :=
  fun s => ((), place.set (op.perform (place.get s)) s)

/-- Operations on a new lifetime have led to a state, and some are still to be woken. -/
def Reached (place : Place σ (Vigil H W)) (owed : List W) (s : σ) : Prop :=
  (∃ ops, place.get s = Vigil.run ops .start) ∧ (place.get s).owed.Perm owed

/-- A program comes to a lifetime by the operations on it, and wakes whoever is to be woken by them. -/
def Attends (place : Place σ (Vigil H W)) (m : StateM σ α) : Prop :=
  ∀ owed, Keeps (Reached place owed) m

theorem Reached.faithful {owed : List W} {s : σ} (reached : Reached place owed s) :
    (place.get s).Faithful := by
  obtain ⟨⟨ops, ran⟩, -⟩ := reached
  rw [ran]
  exact Vigil.faithful_run ops

/-- One more operation. -/
theorem Reached.perform {owed : List W} {s : σ} (reached : Reached place owed s)
    (get_set : ∀ v s, place.get (place.set v s) = v) (op : LifetimeOp H W) :
    Reached place (op.perform (place.get s)).owed (place.set (op.perform (place.get s)) s) := by
  obtain ⟨⟨ops, ran⟩, -⟩ := reached
  refine ⟨⟨ops ++ [op], ?_⟩, by rw [get_set]⟩
  rw [get_set, Vigil.run_append, ← ran]
  rfl

/-- Where nobody is left who is to be woken, no signal is lost. -/
theorem Reached.noneLost {s : σ} (reached : Reached place [] s) :
    (place.get s).NoneLost ∧ (place.get s).owed = [] :=
  ⟨reached.faithful.noneLost, reached.2.eq_nil⟩

theorem Reached.mono {owed owed' : List W} {s : σ} (reached : Reached place owed s)
    (same : owed.Perm owed') : Reached place owed' s :=
  ⟨reached.1, reached.2.trans same⟩

/-- What does not concern a lifetime. -/
theorem Reached.of_eq {owed : List W} {s s' : σ} (reached : Reached place owed s)
    (same : place.get s' = place.get s) : Reached place owed s' := by
  unfold Reached at reached ⊢
  rwa [same]

/-- Whoever registers, waits, polls or gives up changes nothing about who is to be woken. -/
theorem attends_attend (get_set : ∀ v s, place.get (place.set v s) = v) (op : LifetimeOp H W)
    (quiet : op.isQuiet = true) : Attends place (attend place op) := by
  intro owed s reached
  refine (reached.perform get_set op).mono ?_
  rw [LifetimeOp.owed_perform quiet]
  exact reached.2

end

/-! ## What a host does to its lifetime -/

/-- Everything that a stage calls, and whatever else happens, comes to the lifetime of a host by the
operations on it. Whoever is woken may do so, too. -/
structure HostStage.Attended [DecidableEq W] (stage : HostStage σ H ρ V F W)
    (place : Place σ (Vigil H W)) (lifetime provider : Nat) (around : StateM σ Unit → Prop) :
    Prop where
  get_set : ∀ v s, place.get (place.set v s) = v
  lifetime : stage.lifetime lifetime = place.vigil
  timer : ∀ t s, place.get (stage.timer.set t s) = place.get s
  provider : ∀ p s, place.get ((stage.provider provider).set p s) = place.get s
  report : ∀ e, Attends place (stage.report e)
  poll : ∀ r, Attends place (stage.poll r)
  abandon : ∀ r, Attends place (stage.abandon r)
  discard : Attends place stage.discard
  wake : ∀ w, ∃ react : StateM σ Unit, Attends place react ∧
    stage.wake w = attend place (.wake w) >>= fun _ => react
  around : ∀ act, around act → Attends place act

section
variable [DecidableEq W] {stage : HostStage σ H ρ V F W} {place : Place σ (Vigil H W)}
  {around : StateM σ Unit → Prop} {lifetime provider : Nat} {owed : List W} {h : Host} {s : σ}

/-- Those who are to be woken are woken one after the other, and then only those are left who were to
be woken before. -/
theorem reached_wakes (attended : stage.Attended place lifetime provider around) (ws : List W)
    (reached : Reached place (ws ++ owed) s) : Reached place owed (ws.forM stage.wake s).2 := by
  induction ws generalizing s with
  | nil => exact reached
  | cons w ws ih =>
    obtain ⟨react, attends, wake_eq⟩ := attended.wake w
    have due : w ∈ (place.get s).owed := reached.2.symm.subset (by simp)
    have woken : Reached place (ws ++ owed) (attend place (.wake w) s).2 := by
      refine (reached.perform attended.get_set (.wake w)).mono ?_
      rw [Vigil.perform_wake due]
      exact (reached.2.erase w).trans (List.Perm.of_eq (by simp))
    have reacted : Reached place (ws ++ owed) (stage.wake w s).2 := by
      rw [wake_eq]
      exact attends _ _ woken
    exact ih reacted

/-- A host changes the phase, and wakes those who are to be woken by that. -/
theorem reached_change (attended : stage.Attended place lifetime provider around)
    (reached : Reached place owed s) (op : LifetimeOp H W) {l : Lifetime H W} {woken : List W}
    (changes : (place.get s).goTo l = op.perform (place.get s))
    (wakes : (op.perform (place.get s)).owed = (place.get s).owed ++ woken) :
    Reached place owed (woken.forM stage.wake ((stage.lifetime lifetime).set l s)).2 := by
  refine reached_wakes attended woken ?_
  have performed := reached.perform attended.get_set op
  rw [wakes] at performed
  have set_eq : (stage.lifetime lifetime).set l s = place.set (op.perform (place.get s)) s := by
    rw [attended.lifetime, ← changes]
    rfl
  rw [set_eq]
  exact performed.mono ((reached.2.append_right woken).trans List.perm_append_comm)

theorem attends_markStopped
    (attended : stage.Attended place h.lifetime provider around) :
    Attends place (h.markStopped stage) := by
  intro owed s reached
  have changes : Reached place owed (((place.get s).lifetime.markStopped.2).forM stage.wake
      ((stage.lifetime h.lifetime).set (place.get s).lifetime.markStopped.1 s)).2 :=
    reached_change attended reached .markStopped reached.faithful.goTo_markStopped rfl
  have looked : (stage.lifetime h.lifetime).get s = (place.get s).lifetime := by
    rw [attended.lifetime]
    rfl
  rw [← looked] at changes
  exact changes

theorem attends_enterStopping
    (attended : stage.Attended place h.lifetime provider around) :
    Attends place (h.enterStopping stage) := by
  intro owed s reached
  have changes : Reached place owed (((place.get s).lifetime.beginStopping.2.2).forM stage.wake
      ((stage.lifetime h.lifetime).set (place.get s).lifetime.beginStopping.1 s)).2 :=
    reached_change attended reached .beginStopping (Vigil.goTo_beginStopping _) rfl
  have looked : (stage.lifetime h.lifetime).get s = (place.get s).lifetime := by
    rw [attended.lifetime]
    rfl
  rw [← looked] at changes
  exact attended.report _ owed _ changes

/-- From one state to the other a lifetime goes by the operations on it, and all are woken who are to be
woken by them. -/
def GoesOn (place : Place σ (Vigil H W)) (s s' : σ) : Prop :=
  ∀ owed, Reached place owed s → Reached place owed s'

theorem HostStage.Attended.obeys (attended : stage.Attended place lifetime provider around) :
    stage.Obeys lifetime provider around (GoesOn place) where
  refl _ _ reached := reached
  trans first second owed reached := second owed (first owed reached)
  timer t s _ reached := reached.of_eq (attended.timer t s)
  report e s owed := attended.report e owed s
  poll r s owed := attended.poll r owed s
  abandon r s owed := attended.abandon r owed s
  enters h home s owed := by
    subst home
    exact attends_enterStopping attended owed s
  stops h home s owed := by
    subst home
    exact attends_markStopped attended owed s
  releases h home s owed reached := by
    subst home
    exact attended.discard owed _ (reached.of_eq (attended.provider .released s))
  registers s hook l accepted owed reached := by
    rw [attended.lifetime] at accepted ⊢
    have registered := attends_attend attended.get_set (.register hook) rfl owed s reached
    unfold attend at registered
    rwa [← Vigil.goTo_register accepted] at registered
  keeps _ s' _ _ _ _ p _ _ _ _ _ _ reached := reached.of_eq (attended.provider p s')
  around act allowed s owed := attended.around act allowed owed s

end

/-! ## Whole histories -/

namespace Estate.Run

variable [DecidableEq W] {stage : HostStage σ H ρ V F W} {place : Place σ (Vigil H W)}
  {around : StateM σ Unit → Prop} {lifetime provider : Nat} {e e' : Estate σ}

theorem reached (run : Run stage around e e')
    (attended : stage.Attended place lifetime provider around) (home : e.host.At lifetime provider)
    (new : place.get e.state = .start) : Reached place [] e'.state :=
  (run.obeys attended.obeys home).2 [] ⟨⟨[], new⟩, by rw [new]; exact List.Perm.refl _⟩

/-- **Every history of a host is a run of operations on its lifetime**: whatever is done with a host
that is new, its lifetime and what is seen of its waits are those that operations lead to, and nobody
is left who is to be woken. -/
theorem attended (run : Run stage around e e')
    (attended : stage.Attended place lifetime provider around) (home : e.host.At lifetime provider)
    (new : place.get e.state = .start) :
    ∃ ops, place.get e'.state = Vigil.run ops .start ∧ (Vigil.run ops .start : Vigil H W).owed = [] := by
  obtain ⟨⟨ops, ran⟩, nobody⟩ := run.reached attended home new
  rw [ran] at nobody
  exact ⟨ops, ran, nobody.eq_nil⟩

/-- So no signal is lost in any history of a host, and all are woken who are to be. -/
theorem noneLost (run : Run stage around e e')
    (attended : stage.Attended place lifetime provider around) (home : e.host.At lifetime provider)
    (new : place.get e.state = .start) :
    (place.get e'.state).NoneLost ∧ (place.get e'.state).owed = [] :=
  (run.reached attended home new).noneLost

/-- Once the host has stopped, by whatever way, nobody is left waiting. -/
theorem woken_of_stopped (run : Run stage around e e')
    (attended : stage.Attended place lifetime provider around) (home : e.host.At lifetime provider)
    (new : place.get e.state = .start) (stopped : (place.get e'.state).lifetime.phase = .stopped)
    {before after : List (Glimpse W)} {id : WaitId} {w : W}
    (seen : (place.get e'.state).glimpses = before ++ .polled id w false :: after)
    (last : ∀ g ∈ after, g.isAbout id = false) : .woke w ∈ after := by
  have reached := run.reached attended home new
  exact reached.faithful.woken_of_stopped stopped reached.noneLost.2 seen last

end Estate.Run

/-! ## A lobby -/

namespace Lobby

/-- What a hook does: it comes to a result at once, or it waits for a phase. -/
inductive Stay where
  | brief (result : Except HookError Unit)
  | linger (goal : Goal)
  | asking (id : WaitId)

/-- A timer, a lifetime whose waits are watched, and the provider of one host. -/
structure Hall where
  timer : Timer Nat
  vigil : Vigil Stay Nat
  provider : Provider String Unit

/-- Where the lifetime is kept. -/
def desk : Place Hall (Vigil Stay Nat) := ⟨Hall.vigil, fun v s => { s with vigil := v }⟩

/-- A hook asks whether its wait is over. -/
def ask (id : WaitId) : StateM Hall (Progress Stay) := fun s =>
  (if (s.vigil.lifetime.poll id 0).2 then .finished (.ok ()) else .waiting (.asking id),
    (attend desk (.poll id 0) s).2)

/-- Polls a hook. One that is to wait begins to wait and asks at once. -/
def poll : Stay → StateM Hall (Progress Stay)
  | .brief result => return .finished result
  | .linger goal => fun s => ask s.vigil.lifetime.waits.length (attend desk (.wait goal) s).2
  | .asking id => ask id

/-- Abandons a hook, whose wait is given up. -/
def abandon : Stay → StateM Hall Unit
  | .asking id => attend desk (.drop id)
  | _ => return ()

/-- A stage whose hooks wait for the phase. Whoever is woken asks again at once, each of them about the
wait of their own number. -/
def stage : HostStage Hall Stay Stay String Unit Nat where
  timer := ⟨Hall.timer, fun t s => { s with timer := t }⟩
  waker := 0
  report _ := return ()
  start hook := hook.body
  poll := poll
  abandon := abandon
  provider _ := ⟨Hall.provider, fun p s => { s with provider := p }⟩
  lifetime _ := desk.vigil
  wake w := attend desk (.wake w) >>= fun _ => attend desk (.poll w w)
  discard := return ()

/-- What guests do: they register hooks, wait, ask and give up. -/
def Guests (act : StateM Hall Unit) : Prop := ∃ op, op.isQuiet = true ∧ act = attend desk op

theorem get_set (v : Vigil Stay Nat) (s : Hall) : desk.get (desk.set v s) = v := rfl

theorem attends_ask (id : WaitId) : Attends desk (ask id) :=
  fun owed s reached => attends_attend get_set (.poll id 0) rfl owed s reached

theorem attends_poll (stay : Stay) : Attends desk (poll stay) := by
  intro owed s reached
  cases stay with
  | brief result => exact reached
  | linger goal =>
    have begun := attends_attend get_set (.wait goal) rfl owed s reached
    exact attends_ask _ owed _ begun
  | asking id => exact attends_ask id owed s reached

theorem attends_abandon (stay : Stay) : Attends desk (abandon stay) := by
  intro owed s reached
  cases stay with
  | asking id => exact attends_attend get_set (.drop id) rfl owed s reached
  | brief result | linger goal => exact reached

theorem attended : stage.Attended desk 0 0 Guests where
  get_set := get_set
  lifetime := rfl
  timer _ _ := rfl
  provider _ _ := rfl
  report _ _ _ reached := reached
  poll := attends_poll
  abandon := attends_abandon
  discard _ _ reached := reached
  wake w := ⟨attend desk (.poll w w), attends_attend get_set (.poll w w) rfl, rfl⟩
  around act allowed := by
    obtain ⟨op, quiet, rfl⟩ := allowed
    exact attends_attend get_set op quiet

/-- **Whatever is done with a host in the lobby**, no signal is lost, and once it has stopped all those
have been woken who were left waiting. -/
theorem none_left_waiting {settings : Settings} {s : Hall} (new : s.vigil = .start) {e : Estate Hall}
    (run : Estate.Run stage Guests (.built settings 0 0 s) e) :
    e.state.vigil.NoneLost ∧ (e.state.vigil.lifetime.phase = .stopped →
      ∀ before id w after, e.state.vigil.glimpses = before ++ .polled id w false :: after →
        (∀ g ∈ after, g.isAbout id = false) → .woke w ∈ after) :=
  ⟨(run.noneLost attended ⟨rfl, rfl⟩ new).1, fun stopped _ _ _ _ seen last =>
    run.woken_of_stopped attended ⟨rfl, rfl⟩ new stopped seen last⟩

/-- A guest waits for the end, and there is one hook, which waits for the host to stop. -/
def evening : Hall where
  timer := .start
  vigil := Vigil.run [.register ⟨"linger", .linger .stopping⟩, .wait .stopped, .poll 0 0] .start
  provider := .ofRegistry .empty

/-- Both changes of the phase come to the guest, who asks again each time. -/
example : ((Host.new .default 0 0).attempt stage [] evening).2.vigil.glimpses =
    [.begun .stopped, .polled 0 0 false, .entered .stopping [0], .woke 0, .polled 0 0 false,
      .begun .stopping, .polled 1 0 true, .entered .stopped [0], .woke 0, .polled 0 0 true] := rfl

end Lobby

end HostBench
