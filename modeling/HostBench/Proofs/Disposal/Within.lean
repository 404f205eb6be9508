/-
  Stages on the states in which something holds. That a stage leaves a host alone may hold only where
  the state is in order: its places are there, and no one else has the same ones. If all that the stage
  calls leaves the state in order (`HostStage.Sustains`), then it is a stage on the states that are in
  order (`HostStage.within`), and there the host is guarded (`HostStage.GuardedWhere.guarded`).

  So the eras of the host follow each other there, and hence on all states of which the order is known
  (`HostStage.Unfolds.of_within`, `HostStage.GuardedWhere.unfolds`).
-/
import HostBench.Proofs.Disposal.Eras

namespace HostBench

variable {σ H ρ V F W α : Type} {P : σ → Prop}

/-- A program that leaves a property as it is, on the states that have the property. -/
def confine (m : StateM σ α) (keeps : Keeps P m) : StateM {s // P s} α :=
  fun s => ((m s.1).1, ⟨(m s.1).2, keeps s.1 s.2⟩)

/-- A place of the states that have a property, if nothing that is put there takes it away. -/
def Place.within (place : Place σ α) (keeps : ∀ a s, P s → P (place.set a s)) : Place {s // P s} α :=
  ⟨fun s => place.get s.1, fun a s => ⟨place.set a s.1, keeps a s.1 s.2⟩⟩

/-- All that a stage calls, and whatever is put at its places, leaves a property as it is. -/
structure HostStage.Sustains (stage : HostStage σ H ρ V F W) (P : σ → Prop) : Prop
    extends stage.toStage.Respects P where
  provider : ∀ i p s, P s → P ((stage.provider i).set p s)
  lifetime : ∀ i l s, P s → P ((stage.lifetime i).set l s)
  wake : ∀ w, Keeps P (stage.wake w)
  discard : Keeps P stage.discard

/-- A stage on the states that have a property which it leaves as it is. -/
def HostStage.within (stage : HostStage σ H ρ V F W) (sustains : stage.Sustains P) :
    HostStage {s // P s} H ρ V F W where
  timer := stage.timer.within sustains.timer
  waker := stage.waker
  report e := confine (stage.report e) (sustains.report e)
  start := stage.start
  poll r := confine (stage.poll r) (sustains.poll r)
  abandon r := confine (stage.abandon r) (sustains.abandon r)
  provider i := (stage.provider i).within (sustains.provider i)
  lifetime i := (stage.lifetime i).within (sustains.lifetime i)
  wake w := confine (stage.wake w) (sustains.wake w)
  discard := confine stage.discard sustains.discard

/-- Where a property holds, everything that a stage calls only uses the lifetime and the provider of a
host, and those are kept apart from each other and from the timer. -/
structure HostStage.GuardedWhere (stage : HostStage σ H ρ V F W) (P : σ → Prop)
    (lifetime provider : Nat) : Prop where
  sustains : stage.Sustains P
  lifetime_set : ∀ l s, P s → (stage.lifetime lifetime).get ((stage.lifetime lifetime).set l s) = l
  lifetime_timer : ∀ t s, P s →
    (stage.lifetime lifetime).get (stage.timer.set t s) = (stage.lifetime lifetime).get s
  lifetime_provider : ∀ p s, P s →
    (stage.lifetime lifetime).get ((stage.provider provider).set p s) = (stage.lifetime lifetime).get s
  provider_set : ∀ p s, P s → (stage.provider provider).get ((stage.provider provider).set p s) = p
  provider_timer : ∀ t s, P s →
    (stage.provider provider).get (stage.timer.set t s) = (stage.provider provider).get s
  provider_lifetime : ∀ l s, P s →
    (stage.provider provider).get ((stage.lifetime lifetime).set l s) = (stage.provider provider).get s
  poll : ∀ r s, P s → stage.Uses lifetime provider s (stage.poll r s).2
  abandon : ∀ r s, P s → stage.Uses lifetime provider s (stage.abandon r s).2
  report : ∀ e s, P s → stage.Uses lifetime provider s (stage.report e s).2
  wake : ∀ w s, P s → stage.Uses lifetime provider s (stage.wake w s).2
  discard : ∀ s, P s → stage.Uses lifetime provider s (stage.discard s).2

section
variable {stage : HostStage σ H ρ V F W} {lifetime provider n : Nat}

theorem HostStage.GuardedWhere.guarded (guarded : stage.GuardedWhere P lifetime provider) :
    (stage.within guarded.sustains).Guarded lifetime provider where
  lifetime_set l s := guarded.lifetime_set l s.1 s.2
  lifetime_timer t s := guarded.lifetime_timer t s.1 s.2
  lifetime_provider p s := guarded.lifetime_provider p s.1 s.2
  provider_set p s := guarded.provider_set p s.1 s.2
  provider_timer t s := guarded.provider_timer t s.1 s.2
  provider_lifetime l s := guarded.provider_lifetime l s.1 s.2
  poll r s := ⟨(guarded.poll r s.1 s.2).lifetime, (guarded.poll r s.1 s.2).provider⟩
  abandon r s := ⟨(guarded.abandon r s.1 s.2).lifetime, (guarded.abandon r s.1 s.2).provider⟩
  report e s := ⟨(guarded.report e s.1 s.2).lifetime, (guarded.report e s.1 s.2).provider⟩
  wake w s := ⟨(guarded.wake w s.1 s.2).lifetime, (guarded.wake w s.1 s.2).provider⟩
  discard s := ⟨(guarded.discard s.1 s.2).lifetime, (guarded.discard s.1 s.2).provider⟩

/-- What unfolds on the states that have a property unfolds where the property is known. -/
theorem HostStage.Unfolds.of_within {sustains : stage.Sustains P}
    {around : StateM {s // P s} Unit → Prop} {C : Era → {s // P s} → Prop}
    (unfolds : (stage.within sustains).Unfolds lifetime provider around C n) :
    stage.Unfolds lifetime provider (fun act => ∃ keeps, around (confine act keeps))
      (fun era s => ∃ holds, C era ⟨s, holds⟩) n where
  respects era := by
    have respects := unfolds.respects era
    exact {
      timer := fun t s ⟨holds, stands⟩ => ⟨_, respects.timer t ⟨s, holds⟩ stands⟩
      report := fun e s ⟨holds, stands⟩ => ⟨_, respects.report e ⟨s, holds⟩ stands⟩
      poll := fun r s ⟨holds, stands⟩ => ⟨_, respects.poll r ⟨s, holds⟩ stands⟩
      abandon := fun r s ⟨holds, stands⟩ => ⟨_, respects.abandon r ⟨s, holds⟩ stands⟩
      wake := fun w s ⟨holds, stands⟩ => ⟨_, respects.wake w ⟨s, holds⟩ stands⟩
      discard := fun s ⟨holds, stands⟩ => ⟨_, respects.discard ⟨s, holds⟩ stands⟩
      register := fun s hook l ⟨holds, stands⟩ accepted =>
        ⟨_, respects.register ⟨s, holds⟩ hook l stands accepted⟩
      keep := fun s key v p kept ⟨holds, stands⟩ done =>
        ⟨_, respects.keep ⟨s, holds⟩ key v p kept stands done⟩ }
  around := fun act ⟨_, allowed⟩ era s ⟨holds, stands⟩ =>
    ⟨_, unfolds.around _ allowed era ⟨s, holds⟩ stands⟩
  begins := fun s ⟨holds, stands⟩ => ⟨_, unfolds.begins ⟨s, holds⟩ stands⟩
  begun := fun s ⟨holds, stands⟩ =>
    ⟨⟨_, (unfolds.begun ⟨s, holds⟩ stands).1⟩, (unfolds.begun ⟨s, holds⟩ stands).2⟩
  stops s stands := by
    rcases stands with ⟨holds, running⟩ | ⟨holds, stopping⟩
    · exact ⟨_, unfolds.stops ⟨s, holds⟩ (.inl running)⟩
    · exact ⟨_, unfolds.stops ⟨s, holds⟩ (.inr stopping)⟩
  releases := fun s ⟨holds, stands⟩ =>
    ⟨(unfolds.releases ⟨s, holds⟩ stands).1, _, (unfolds.releases ⟨s, holds⟩ stands).2⟩

/-- Where a property holds, a program leaves it as it is and only uses the lifetime and the provider of
a host. -/
def HostStage.MindsWhere (stage : HostStage σ H ρ V F W) (P : σ → Prop) (lifetime provider : Nat)
    (m : StateM σ α) : Prop :=
  ∀ s, P s → P (m s).2 ∧ stage.Uses lifetime provider s (m s).2

/-- Where the property holds, a host that others only use goes from era to era by its own doing. -/
theorem HostStage.GuardedWhere.unfolds (guarded : stage.GuardedWhere P lifetime provider) (n : Nat) :
    stage.Unfolds lifetime provider (stage.MindsWhere P lifetime provider)
      (fun era s => P s ∧ stage.In lifetime provider n era s) n := by
  have same : (fun era s => P s ∧ stage.In lifetime provider n era s) = fun era s =>
      ∃ holds, (stage.within guarded.sustains).In lifetime provider n era ⟨s, holds⟩ := by
    funext era s
    exact propext ⟨fun ⟨holds, stands⟩ => ⟨holds, stands.phase, stands.released, stands.size⟩,
      fun ⟨holds, stands⟩ => ⟨holds, stands.phase, stands.released, stands.size⟩⟩
  have unfolds := (guarded.guarded.unfolds n).of_within
  rw [← same] at unfolds
  exact { unfolds with
    around := fun m minds => unfolds.around m ⟨fun s holds => (minds s holds).1, fun s =>
      ⟨(minds s.1 s.2).2.lifetime, (minds s.1 s.2).2.provider⟩⟩ }

end

end HostBench
