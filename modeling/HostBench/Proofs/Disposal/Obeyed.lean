/-
  What all that is done with a host obeys. A relation between states may be about the lifetime of the
  host and its provider, as long as the host itself obeys it in what it does to them: in its begin to
  stop with those who are woken then, in its end, and in the release of its services
  (`HostStage.Obeys`). No era makes a difference to it.

  Then so do disposals, in vain or not, and drops (`obeys_dispose`, `obeys_attempt`, `obeys_drop`), and
  whole histories of a host do (`Estate.Run.obeys`).
-/
import HostBench.Proofs.Disposal.Estate

namespace HostBench

variable {σ H ρ V F W : Type}

/-- All that a stage calls obeys a relation between states, and so does all that a host does whose
lifetime and provider are kept at certain places. -/
structure HostStage.Obeys (stage : HostStage σ H ρ V F W) (lifetime provider : Nat)
    (around : StateM σ Unit → Prop) (R : σ → σ → Prop) : Prop where
  refl : ∀ s, R s s
  trans : ∀ {s t u}, R s t → R t u → R s u
  timer : ∀ t s, R s (stage.timer.set t s)
  report : ∀ e s, R s (stage.report e s).2
  poll : ∀ r s, R s (stage.poll r s).2
  abandon : ∀ r s, R s (stage.abandon r s).2
  enters : ∀ h : Host, h.lifetime = lifetime → ∀ s, R s (h.enterStopping stage s).2
  stops : ∀ h : Host, h.lifetime = lifetime → ∀ s, R s (h.markStopped stage s).2
  releases : ∀ h : Host, h.provider = provider → ∀ s, R s (h.release stage s).2
  registers : ∀ s hook l, ((stage.lifetime lifetime).get s).register hook = .ok l →
    R s ((stage.lifetime lifetime).set l s)
  /-- A singleton is kept only if it was to be made. -/
  keeps : ∀ s s' key kind f v p kept,
    ((stage.provider provider).get s).lookup key = .toMake kind f → kind ≠ .transient → R s s' →
    ((stage.provider provider).get s').keep key v = .ok (p, kept) →
    R s' ((stage.provider provider).set p s')
  around : ∀ act, around act → ∀ s, R s (act s).2

/-- The lifetime and the provider of a host are kept at certain places. -/
structure Host.At (h : Host) (lifetime provider : Nat) : Prop where
  lifetime : h.lifetime = lifetime
  provider : h.provider = provider

section
variable {stage : HostStage σ H ρ V F W} {lifetime provider : Nat} {around : StateM σ Unit → Prop}
  {R : σ → σ → Prop} {h : Host} {s : σ}

/-- What has been obeyed so far is obeyed further on by whatever obeys it everywhere. -/
theorem HostStage.Obeys.onward (obeys : stage.Obeys lifetime provider around R) (s : σ) {α : Type}
    {m : StateM σ α} (all : ∀ t, R t (m t).2) : Keeps (R s) m :=
  fun t before => obeys.trans before (all t)

theorem HostStage.Obeys.closing (obeys : stage.Obeys lifetime provider around R) (s : σ)
    (home : h.At lifetime provider) : stage.Closing (keepsKind (R s)) h where
  timer := ⟨keeps_read _, fun t u before => obeys.trans before (obeys.timer t u)⟩
  report e := obeys.onward s (obeys.report e)
  poll r := obeys.onward s (obeys.poll r)
  abandon r := obeys.onward s (obeys.abandon r)
  stops := obeys.onward s (obeys.stops h home.lifetime)
  releases := obeys.onward s (obeys.releases h home.provider)

theorem obeys_cancelDisposal (obeys : stage.Obeys lifetime provider around R)
    (home : h.At lifetime provider) (d : Disposal H ρ) (s : σ) :
    R s (Host.cancelDisposal stage d s).2 :=
  Host.has_cancelDisposal (obeys.closing s home).toComposed d s (obeys.refl s)

theorem obeys_drop (obeys : stage.Obeys lifetime provider around R) (home : h.At lifetime provider)
    (s : σ) : R s (h.drop stage s).2 := Host.has_drop (obeys.closing s home) s (obeys.refl s)

variable [BEq W]

theorem obeys_pollDisposal (obeys : stage.Obeys lifetime provider around R)
    (home : h.At lifetime provider) (d : Shutdown H ρ) (s : σ) :
    R s (Host.pollDisposal stage ⟨h, d⟩ s).2 :=
  Host.has_pollDisposal (obeys.closing s home) s (obeys.refl s)

theorem obeys_dispose (obeys : stage.Obeys lifetime provider around R)
    (home : h.At lifetime provider) (s : σ) : R s (h.dispose stage s).2 := by
  cases reported : h.report with
  | some report =>
    have told := obeys.report (.alreadyDisposed h.settings.hostName) s
    unfold Host.dispose
    rw [reported]
    exact told
  | none =>
    rw [Host.dispose_of_fresh reported]
    exact obeys.trans (obeys.enters h home.lifetime s) (obeys_pollDisposal obeys home _ _)

/-- An attempt to dispose a host, whether it returns or is cut short. -/
theorem obeys_attempt (obeys : stage.Obeys lifetime provider around R)
    (home : h.At lifetime provider) {acts : List (StateM σ Unit)} (allowed : ∀ act ∈ acts, around act)
    (s : σ) : R s (h.attempt stage acts s).2 := by
  cases reported : h.report with
  | some report =>
    rw [Host.attempt_of_reported reported]
    exact obeys.report _ s
  | none =>
    obtain ⟨accounts, records, cut, t, rest, course, ends⟩ := exists_course stage reported acts s
    have closing := obeys.closing s home
    have through : R s t := (course.keeps closing.toComposed
      (fun act hact => obeys.onward s (obeys.around act (allowed act hact)))
      (obeys.enters h home.lifetime s)).2
    rw [ends]
    cases cut with
    | some c => exact through
    | none => exact Host.has_finish closing records t through

/-- **Whole histories of a host** obey what each part of them obeys, and the host stays where it is. -/
theorem Estate.Run.obeys {e e' : Estate σ} (run : Run stage around e e')
    (obeys : stage.Obeys lifetime provider around R) (home : e.host.At lifetime provider) :
    e'.host.At lifetime provider ∧ R e.state e'.state := by
  induction run with
  | nothing e => exact ⟨home, obeys.refl e.state⟩
  | followed _ _ ih ih' =>
    obtain ⟨between, first⟩ := ih home
    obtain ⟨after, second⟩ := ih' between
    exact ⟨after, obeys.trans first second⟩
  | @acted e m allowed => exact ⟨home, obeys.around m allowed e.state⟩
  | @registered e hook l accepted =>
    obtain ⟨rfl, rfl⟩ := home
    exact ⟨⟨rfl, rfl⟩, obeys.registers e.state hook l accepted⟩
  | resolved e makes tells key ih ih' =>
    rw [home.provider]
    refine keeps_resolve_from
      (P := fun x : Estate σ => x.host.At lifetime provider ∧ R e.state x.state) ?_ ?_ ?_
      ⟨home, obeys.refl e.state⟩
    · intro f x before
      obtain ⟨after, made⟩ := ih f x before.1
      exact ⟨after, obeys.trans before.2 made⟩
    · intro key lifetime x before
      obtain ⟨after, told⟩ := ih' key lifetime x before.1
      exact ⟨after, obeys.trans before.2 told⟩
    · intro kind f toMake kept x v p answer before done
      exact ⟨before.1, obeys.trans before.2
        (obeys.keeps e.state x.state key kind f v p answer toMake kept before.2 done)⟩
  | @disposed e kept acts allowed =>
    obtain ⟨a, t, attempted⟩ := Host.exists_attempted stage e.host acts e.state
    obtain ⟨same_lifetime, same_provider, -⟩ := attempted.host
    have after : R e.state (e.host.attempt stage acts e.state).2 :=
      obeys_attempt obeys home allowed e.state
    rw [attempted.attempt_eq] at after
    rw [attempt_eq attempted.attempt_eq]
    exact ⟨⟨same_lifetime.trans home.lifetime, same_provider.trans home.provider⟩, after⟩
  | dropped e kept => exact ⟨home, obeys_drop obeys home e.state⟩

end

end HostBench
