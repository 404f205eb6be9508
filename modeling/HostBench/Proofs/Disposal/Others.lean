/-
  What others may do to a host while it is being disposed, and what they cannot. Hooks, tasks and
  whoever holds a provider or a lifetime act on the same state as the disposal. They resolve services
  (`Provider.keeps_resolve_of_uses`), register hooks, wait, and set alarms of their own; but the phase
  of the host, the release of its services and the alarms of the disposal are not theirs
  (`Lifetime.Uses.phase_eq`, `Provider.Uses.stillOffers`, `Timer.Use`).

  `HostStage.Sound` says that everything a stage calls keeps to that, and `HostStage.Passes` that
  whatever happens between two polls does.
-/
import HostBench.Proofs.Disposal.Keeping
import Mathlib.Logic.Relation

namespace HostBench

variable {σ H ρ V F W : Type}

/-! ## Lifetimes -/

/-- What others may do with a lifetime. -/
inductive Lifetime.Use : Lifetime H W → Lifetime H W → Prop
  | register {l l' : Lifetime H W} {hook : Hook H} (accepted : l.register hook = .ok l') : Use l l'
  | wait (l : Lifetime H W) (goal : Goal) : Use l (l.wait goal).1
  | poll (l : Lifetime H W) (id : WaitId) (w : W) : Use l (l.poll id w).1
  | cancel (l : Lifetime H W) (id : WaitId) : Use l (l.cancel id)

/-- What others may do with a lifetime one after the other. -/
abbrev Lifetime.Uses : Lifetime H W → Lifetime H W → Prop := Relation.ReflTransGen Lifetime.Use

namespace Lifetime

variable {l l' : Lifetime H W}

theorem Use.phase_eq (u : Use l l') : l'.phase = l.phase := by
  cases u with
  | register accepted =>
    obtain ⟨-, rfl⟩ := register_eq_ok_iff.mp accepted
    rfl
  | wait goal => rfl
  | poll id w =>
    unfold Lifetime.poll
    split
    · rfl
    · split <;> rfl
  | cancel id =>
    unfold Lifetime.cancel
    split <;> rfl

/-- Hooks are accepted only while the host runs. -/
theorem Use.hooks_eq (u : Use l l') (stopping : l.phase ≠ .running) : l'.hooks = l.hooks := by
  cases u with
  | register accepted => exact absurd (register_eq_ok_iff.mp accepted).1 stopping
  | wait goal => rfl
  | poll id w =>
    unfold Lifetime.poll
    split
    · rfl
    · split <;> rfl
  | cancel id =>
    unfold Lifetime.cancel
    split <;> rfl

theorem Uses.phase_eq (u : Uses l l') : l'.phase = l.phase := by
  induction u with
  | refl => rfl
  | tail _ last ih => rw [last.phase_eq, ih]

theorem Uses.hooks_eq (u : Uses l l') (stopping : l.phase ≠ .running) : l'.hooks = l.hooks := by
  induction u with
  | refl => rfl
  | tail first last ih =>
    have still := Uses.phase_eq first
    rw [last.hooks_eq (by rw [still]; exact stopping), ih]

/-- Others take no hooks away. -/
theorem Use.hooks_prefix (use : Use l l') : l.hooks <+: l'.hooks := by
  cases use with
  | register accepted =>
    obtain ⟨-, rfl⟩ := register_eq_ok_iff.mp accepted
    exact List.prefix_append _ _
  | wait goal => exact List.prefix_refl _
  | poll id w =>
    unfold Lifetime.poll
    split
    · exact List.prefix_refl _
    · split <;> exact List.prefix_refl _
  | cancel id =>
    unfold Lifetime.cancel
    split <;> exact List.prefix_refl _

theorem Uses.hooks_prefix (uses : Uses l l') : l.hooks <+: l'.hooks := by
  induction uses with
  | refl => exact List.prefix_refl _
  | tail _ last ih => exact ih.trans last.hooks_prefix

theorem register_of_ne_running (stopping : l.phase ≠ .running) (hook : Hook H) :
    l.register hook = .error ⟨"register_on_stop"⟩ := by
  simp [register, isStopping, stopping]

end Lifetime

/-! ## Providers -/

/-- What others may do with a provider: a singleton that they have made is kept. -/
inductive Provider.Use : Provider V F → Provider V F → Prop
  | keep {p p' : Provider V F} {s : Services V F} {key : Capability} {f : F} {v kept : V}
      (live : p.services = some s) (single : s.registry.find? key = some (.singleton f))
      (done : p.keep key v = .ok (p', kept)) : Use p p'

/-- What others may do with a provider one after the other. -/
abbrev Provider.Uses : Provider V F → Provider V F → Prop := Relation.ReflTransGen Provider.Use

/-- A provider still resolves what it resolved before. What was found is found, and what was not made
yet is still to be made or has been made since. -/
structure Provider.StillOffers (p p' : Provider V F) : Prop where
  live : p'.isReleased = false
  size : p'.size = p.size
  found : ∀ key v, p.lookup key = .found v → p'.lookup key = .found v
  toMake : ∀ key lifetime f, p.lookup key = .toMake lifetime f →
    p'.lookup key = .toMake lifetime f ∨ lifetime = .singleton ∧ ∃ v, p'.lookup key = .found v
  refused : ∀ key e, p.lookup key = .refused e → p'.lookup key = .refused e

namespace Provider

variable {p p' p'' : Provider V F}

theorem StillOffers.refl (live : p.isReleased = false) : p.StillOffers p :=
  ⟨live, rfl, fun _ _ h => h, fun _ _ _ h => .inl h, fun _ _ h => h⟩

theorem StillOffers.trans (first : p.StillOffers p') (second : p'.StillOffers p'') :
    p.StillOffers p'' where
  live := second.live
  size := second.size.trans first.size
  found key v h := second.found key v (first.found key v h)
  toMake key lifetime f h := by
    rcases first.toMake key lifetime f h with still | ⟨single, v, made⟩
    · exact second.toMake key lifetime f still
    · exact .inr ⟨single, v, second.found key v made⟩
  refused key e h := second.refused key e (first.refused key e h)

theorem lookup_of_kept {s : Services V F} {key : Capability} (fresh : key.lookup s.singletons = none)
    (v : V) (k : Capability) :
    lookup ⟨some { s with singletons := s.singletons ++ [(key, v)] }⟩ k =
      if k = key then .found v else lookup ⟨some s⟩ k := by
  have absent : s.singletons.find? (·.1 == key) = none := by simpa [Capability.lookup] using fresh
  by_cases same : k = key
  · subst same
    simp [lookup, Capability.lookup, List.find?_append, absent]
  · have other : [(key, v)].find? (·.1 == k) = none := by
      simpa using fun h : key = k => same h.symm
    simp [lookup, Capability.lookup, List.find?_append, other, same]

/-- To keep a singleton takes nothing away. -/
theorem stillOffers_keep {s : Services V F} {key : Capability} {f : F} {v kept : V}
    (live : p.services = some s) (single : s.registry.find? key = some (.singleton f))
    (done : p.keep key v = .ok (p', kept)) : p.StillOffers p' := by
  obtain ⟨services⟩ := p
  cases live
  cases known : key.lookup s.singletons with
  | some old =>
    simp only [keep, known] at done
    cases done
    exact .refl rfl
  | none =>
    simp only [keep, known] at done
    cases done
    have before : lookup ⟨some s⟩ key = .toMake .singleton f := by
      simp [lookup, known, single]
    have after := lookup_of_kept known v
    refine ⟨rfl, rfl, ?_, ?_, ?_⟩
    · intro k u found
      by_cases same : k = key
      · rw [same, before] at found
        cases found
      · rw [after, if_neg same, found]
    · intro k lifetime g toMake
      by_cases same : k = key
      · rw [same, before] at toMake
        cases toMake
        exact .inr ⟨rfl, v, by rw [after, if_pos same]⟩
      · exact .inl (by rw [after, if_neg same, toMake])
    · intro k e refused
      by_cases same : k = key
      · rw [same, before] at refused
        cases refused
      · rw [after, if_neg same, refused]

theorem Use.stillOffers (u : Use p p') : p.StillOffers p' := by
  cases u with
  | keep live single done => exact stillOffers_keep live single done

theorem Uses.stillOffers (u : Uses p p') (live : p.isReleased = false) : p.StillOffers p' := by
  induction u with
  | refl => exact .refl live
  | tail _ last ih => exact ih.trans last.stillOffers

/-- Nobody changes what is registered. -/
theorem Uses.registry_eq {s : Services V F} (u : Uses p p') (live : p.services = some s) :
    ∃ s', p'.services = some s' ∧ s'.registry = s.registry := by
  induction u with
  | refl => exact ⟨s, live, rfl⟩
  | @tail q _ _ last ih =>
    obtain ⟨t, live', same⟩ := ih
    cases last with
    | @keep _ key _ v _ _ _ done =>
      unfold keep at done
      rw [live'] at done
      cases known : key.lookup t.singletons with
      | some old =>
        simp only [known] at done
        cases done
        exact ⟨t, live', same⟩
      | none =>
        simp only [known] at done
        cases done
        exact ⟨_, rfl, same⟩

theorem registered_of_toMake {key : Capability} {lifetime : ServiceLifetime} {f : F}
    (toMake : p.lookup key = .toMake lifetime f) (kept : lifetime ≠ .transient) :
    ∃ s, p.services = some s ∧ s.registry.find? key = some (.singleton f) := by
  obtain ⟨services⟩ := p
  unfold lookup at toMake
  split at toMake
  · cases toMake
  · rename_i s live
    refine ⟨s, live, ?_⟩
    split at toMake
    · cases toMake
    · split at toMake
      · cases toMake
      · cases toMake
      · rename_i single
        cases toMake
        exact single
      · cases toMake
        exact absurd rfl kept

/-- To resolve a capability is among the things that others may do: it leaves what factories and those
who are told of what was created leave, if the provider was only used so far and may be used. -/
theorem keeps_resolve_of_uses {place : Place σ (Provider V F)} {P : σ → Prop} {s : σ}
    {make : F → StateM σ (Except ResolveError V)}
    {created : Capability → ServiceLifetime → StateM σ Unit}
    (uses : ∀ s', P s' → Uses (place.get s) (place.get s'))
    (kept : ∀ s' p, P s' → Use (place.get s') p → P (place.set p s'))
    (makes : ∀ f, Keeps P (make f)) (tells : ∀ key lifetime, Keeps P (created key lifetime))
    (key : Capability) (holds : P s) : P (resolve place make created key s).2 := by
  refine keeps_resolve_from makes tells ?_ holds
  intro lifetime f toMake transient s' v p answer before done
  obtain ⟨t, live, single⟩ := registered_of_toMake toMake transient
  obtain ⟨t', live', same⟩ := Uses.registry_eq (uses s' before) live
  rw [← same] at single
  exact kept s' p before (.keep live' single done)

end Provider

/-! ## Timers -/

namespace Timer

/-- The alarms that have not gone off: their numbers and when they are due. -/
def dues (t : Timer W) : List (Nat × Millis) := t.alarms.map fun a => (a.id, a.due)

/-- Every alarm has got its number from the timer. -/
def Tidy (t : Timer W) : Prop := ∀ x ∈ t.dues, x.1 < t.next

/-- What others may do with a timer while the alarms with certain numbers are `theirs`, and those with
certain numbers are `theirs'` after that: they set alarms and take back their own, and others go off
when they are due. -/
structure Use (theirs theirs' : Nat → Prop) (t t' : Timer W) : Prop where
  next_le : t.next ≤ t'.next
  kept : ∀ x ∈ t.dues, ¬ theirs x.1 → x.2 ≤ t'.now ∨ x ∈ t'.dues
  known : ∀ x ∈ t'.dues, x ∈ t.dues ∨ t.next ≤ x.1 ∧ x.1 < t'.next
  owned : ∀ id, theirs' id → theirs id ∨ t.next ≤ id ∧ id < t'.next

theorem Use.refl (theirs : Nat → Prop) (t : Timer W) : Use theirs theirs t t :=
  ⟨Nat.le_refl _, fun _ hx _ => .inr hx, fun _ hx => .inl hx, fun _ h => .inl h⟩

theorem Use.tidy {theirs theirs' : Nat → Prop} {t t' : Timer W} (u : Use theirs theirs' t t')
    (tidy : t.Tidy) : t'.Tidy := by
  intro x hx
  rcases u.known x hx with old | new
  · exact Nat.lt_of_lt_of_le (tidy x old) u.next_le
  · exact new.2

/-- The alarm of a pause, if it is set, belongs to nobody else, and has gone off only if it was due. -/
structure Armed (theirs : Nat → Prop) (t : Timer W) (p : Pause) : Prop where
  lt_next : ∀ id, p.alarm = some id → id < t.next
  own : ∀ id, p.alarm = some id → ¬ theirs id
  due_eq : ∀ id, p.alarm = some id → ∀ due, (id, due) ∈ t.dues → due = p.due
  pending : ∀ id, p.alarm = some id → p.due ≤ t.now ∨ (id, p.due) ∈ t.dues

theorem armed_of_unset {theirs : Nat → Prop} {t : Timer W} {p : Pause} (unset : p.alarm = none) :
    Armed theirs t p := by
  constructor <;> simp [unset]

theorem Use.armed {theirs theirs' : Nat → Prop} {t t' : Timer W} (u : Use theirs theirs' t t')
    (later : t.now ≤ t'.now) {p : Pause} (armed : Armed theirs t p) : Armed theirs' t' p where
  lt_next id set := Nat.lt_of_lt_of_le (armed.lt_next id set) u.next_le
  own id set owned := by
    rcases u.owned id owned with old | new
    · exact armed.own id set old
    · exact Nat.not_lt.mpr new.1 (armed.lt_next id set)
  due_eq id set due listed := by
    rcases u.known _ listed with old | new
    · exact armed.due_eq id set due old
    · exact absurd (armed.lt_next id set) (Nat.not_lt.mpr new.1)
  pending id set := by
    rcases armed.pending id set with up | listed
    · exact .inl (Nat.le_trans up later)
    · exact u.kept _ listed (armed.own id set)

end Timer

/-! ## Stages -/

/-- What lies at one place of a state is not changed from the others, and neither is whose the alarms
are. -/
structure HostStage.Apart (stage : HostStage σ H ρ V F W) (h : Host) (theirs : σ → Nat → Prop) :
    Prop where
  timer_set : ∀ t s, stage.timer.get (stage.timer.set t s) = t
  timer_lifetime : ∀ l s, stage.timer.get ((stage.lifetime h.lifetime).set l s) = stage.timer.get s
  timer_provider : ∀ p s, stage.timer.get ((stage.provider h.provider).set p s) = stage.timer.get s
  lifetime_set : ∀ l s,
    (stage.lifetime h.lifetime).get ((stage.lifetime h.lifetime).set l s) = l
  lifetime_timer : ∀ t s,
    (stage.lifetime h.lifetime).get (stage.timer.set t s) = (stage.lifetime h.lifetime).get s
  lifetime_provider : ∀ p s, (stage.lifetime h.lifetime).get ((stage.provider h.provider).set p s) =
    (stage.lifetime h.lifetime).get s
  provider_set : ∀ p s,
    (stage.provider h.provider).get ((stage.provider h.provider).set p s) = p
  provider_timer : ∀ t s,
    (stage.provider h.provider).get (stage.timer.set t s) = (stage.provider h.provider).get s
  provider_lifetime : ∀ l s, (stage.provider h.provider).get ((stage.lifetime h.lifetime).set l s) =
    (stage.provider h.provider).get s
  theirs_timer : ∀ t s, theirs (stage.timer.set t s) = theirs s
  theirs_lifetime : ∀ l s, theirs ((stage.lifetime h.lifetime).set l s) = theirs s
  theirs_provider : ∀ p s, theirs ((stage.provider h.provider).set p s) = theirs s

/-- Others have gone from one state to another. -/
structure HostStage.Moves (stage : HostStage σ H ρ V F W) (h : Host) (theirs : σ → Nat → Prop)
    (s s' : σ) : Prop where
  lifetime : Lifetime.Uses ((stage.lifetime h.lifetime).get s) ((stage.lifetime h.lifetime).get s')
  provider : Provider.Uses ((stage.provider h.provider).get s) ((stage.provider h.provider).get s')
  timer : Timer.Use (theirs s) (theirs s') (stage.timer.get s) (stage.timer.get s')

/-- Others have gone from one state to another, and no time has passed. -/
structure HostStage.MovesAtOnce (stage : HostStage σ H ρ V F W) (h : Host)
    (theirs : σ → Nat → Prop) (s s' : σ) : Prop extends stage.Moves h theirs s s' where
  now_eq : (stage.timer.get s').now = (stage.timer.get s).now

/-- Everything that a stage calls is the work of others, and takes no time. -/
structure HostStage.Sound (stage : HostStage σ H ρ V F W) (h : Host) (theirs : σ → Nat → Prop) :
    Prop extends stage.Apart h theirs where
  poll : ∀ r s, stage.MovesAtOnce h theirs s (stage.poll r s).2
  abandon : ∀ r s, stage.MovesAtOnce h theirs s (stage.abandon r s).2
  report : ∀ e s, stage.MovesAtOnce h theirs s (stage.report e s).2
  wake : ∀ w s, stage.MovesAtOnce h theirs s (stage.wake w s).2
  discard : ∀ s, stage.MovesAtOnce h theirs s (stage.discard s).2

/-- What may happen between two polls: others do something, time passes, and the alarms that are due
go off. The next poll has a budget. -/
structure HostStage.Passes (stage : HostStage σ H ρ V F W) (h : Host) (theirs : σ → Nat → Prop)
    (act : StateM σ Unit) : Prop where
  moves : ∀ s, stage.Moves h theirs s (act s).2
  now_le : ∀ s, (stage.timer.get s).now ≤ (stage.timer.get (act s).2).now
  rung : ∀ s, ∀ x ∈ (stage.timer.get (act s).2).dues, (stage.timer.get (act s).2).now < x.2
  budget : ∀ s, (stage.timer.get (act s).2).exhausted = false

end HostBench
