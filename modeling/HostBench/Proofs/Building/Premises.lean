/-
  The premises of a host: where its clock, its log, its lifetime and its provider are kept in a memory.
  Whoever has a hold of one of these changes it only by what can be done with it, and may do so at any
  time: the host itself and its hooks, factories and those who are woken, other hosts, and whoever was
  given a service or has kept the clock of the builder. One such change is a `Premises.Step`, and with
  anything that is done elsewhere between them they make up all that can become of a memory
  (`Premises.Goes`).

  * What a host and its services do is made of such changes (`Habits.Honest.goes`), if what they call
    is, and so is every history of a host (`Habits.Honest.upholds`).
  * The clock goes by its operations (`Goes.clock`), the log keeps its source and its capacity and
    records the time of its clock (`Goes.log`, `Goes.recorded`), and what the provider has found it
    finds until it is released (`Goes.provider`).
-/
import HostBench.Proofs.Clock.Elapsed
import HostBench.Proofs.Disposal.Obeyed
import HostBench.Proofs.Neighbours.Dealings

namespace HostBench

variable {E V F H ρ W α : Type}

/-- The point in time that a source shows. -/
def Memory.showing (s : Memory E V F H ρ W) : TimeSource → Option Instant
  | .fake clock => (s.cells .clock clock).now?
  | .system => none

/-- Where the things of a host are kept. -/
structure Premises where
  clock : Nat
  log : Nat
  lifetime : Nat
  provider : Nat

namespace Premises

/-- An address is one of the premises. -/
def has (q : Premises) : Part → Nat → Bool
  | .clock, i => i == q.clock
  | .log, i => i == q.log
  | .lifetime, i => i == q.lifetime
  | .provider, i => i == q.provider
  | .timer, _ | .host, _ | .object, _ => false

/-! ## Changes -/

/-- A change of a memory. The premises of a host change only by what can be done with them. -/
inductive Step (q : Premises) : Memory E V F H ρ W → Memory E V F H ρ W → Prop
  | clock (s : Memory E V F H ρ W) (op : ClockOp W) :
      Step q s (s.put .clock q.clock (op.change (s.cells .clock q.clock)))
  | append {s : Memory E V F H ρ W} {stream kind : String} {payload : Payload} {l : EventLog}
      {r : EventRecord} (taken : (s.cells .log q.log).appendPayload stream kind payload
        (s.showing (s.cells .log q.log).source) = .ok (l, r)) : Step q s (s.put .log q.log l)
  | use {s : Memory E V F H ρ W} {l : Lifetime H W}
      (uses : Lifetime.Use (s.cells .lifetime q.lifetime) l) : Step q s (s.put .lifetime q.lifetime l)
  | begins (s : Memory E V F H ρ W) :
      Step q s (s.put .lifetime q.lifetime (s.cells .lifetime q.lifetime).beginStopping.1)
  | stops (s : Memory E V F H ρ W) :
      Step q s (s.put .lifetime q.lifetime (s.cells .lifetime q.lifetime).markStopped.1)
  | keeps {s : Memory E V F H ρ W} {p : Provider V F}
      (uses : Provider.Use (s.cells .provider q.provider) p) : Step q s (s.put .provider q.provider p)
  | releases (s : Memory E V F H ρ W) : Step q s (s.put .provider q.provider .released)
  | elsewhere {s t : Memory E V F H ρ W}
      (same : ∀ part i, q.has part i = true → t.cells part i = s.cells part i) : Step q s t

/-- Changes one after the other. -/
abbrev Goes (q : Premises) : Memory E V F H ρ W → Memory E V F H ρ W → Prop :=
  Relation.ReflTransGen q.Step

/-! ## What is done at any address -/

variable {q : Premises} {s t u : Memory E V F H ρ W} {part : Part} {i : Nat}

/-- Elsewhere anything may be done. -/
theorem goes_put {a : Content E V F H ρ W part}
    (at_premises : q.has part i = true → q.Step s (s.put part i a)) : q.Goes s (s.put part i a) := by
  cases here : q.has part i with
  | true => exact .single (at_premises here)
  | false =>
    refine .single (.elsewhere fun part' i' ours => Memory.cells_put_of_ne s a ?_)
    rintro rfl rfl
    rw [here] at ours
    cases ours

theorem goes_clock (q : Premises) (s : Memory E V F H ρ W) (i : Nat) (op : ClockOp W) :
    q.Goes s (s.put .clock i (op.change (s.cells .clock i))) := by
  refine goes_put fun here => ?_
  obtain rfl := beq_iff_eq.mp here
  exact .clock s op

theorem goes_append {stream kind : String} {payload : Payload} {l : EventLog} {r : EventRecord}
    (taken : (s.cells .log i).appendPayload stream kind payload
      (s.showing (s.cells .log i).source) = .ok (l, r)) : q.Goes s (s.put .log i l) := by
  refine goes_put fun here => ?_
  obtain rfl := beq_iff_eq.mp here
  exact .append taken

theorem goes_use {l : Lifetime H W} (uses : Lifetime.Use (s.cells .lifetime i) l) :
    q.Goes s (s.put .lifetime i l) := by
  refine goes_put fun here => ?_
  obtain rfl := beq_iff_eq.mp here
  exact .use uses

theorem goes_begins (q : Premises) (s : Memory E V F H ρ W) (i : Nat) :
    q.Goes s (s.put .lifetime i (s.cells .lifetime i).beginStopping.1) := by
  refine goes_put fun here => ?_
  obtain rfl := beq_iff_eq.mp here
  exact .begins s

theorem goes_stops (q : Premises) (s : Memory E V F H ρ W) (i : Nat) :
    q.Goes s (s.put .lifetime i (s.cells .lifetime i).markStopped.1) := by
  refine goes_put fun here => ?_
  obtain rfl := beq_iff_eq.mp here
  exact .stops s

theorem goes_keeps {p : Provider V F}
    (uses : i = q.provider → Provider.Use (s.cells .provider i) p) : q.Goes s (s.put .provider i p) := by
  refine goes_put fun here => ?_
  obtain rfl := beq_iff_eq.mp here
  exact .keeps (uses rfl)

theorem goes_releases (q : Premises) (s : Memory E V F H ρ W) (i : Nat) :
    q.Goes s (s.put .provider i .released) := by
  refine goes_put fun here => ?_
  obtain rfl := beq_iff_eq.mp here
  exact .releases s

/-! ## What becomes of the premises -/

theorem Step.clock_cases (step : q.Step s t) :
    t.cells .clock q.clock = s.cells .clock q.clock ∨
      ∃ op : ClockOp W, t.cells .clock q.clock = op.change (s.cells .clock q.clock) := by
  cases step with
  | clock op => exact .inr ⟨op, Memory.cells_put_self s _⟩
  | elsewhere same => exact .inl (same .clock q.clock (beq_self_eq_true q.clock))
  | append | use | begins | stops | keeps | releases => exact .inl rfl

theorem Step.log_cases (step : q.Step s t) :
    t.cells .log q.log = s.cells .log q.log ∨
      ∃ stream kind payload r, (s.cells .log q.log).appendPayload stream kind payload
        (s.showing (s.cells .log q.log).source) = .ok (t.cells .log q.log, r) := by
  cases step with
  | append taken => exact .inr ⟨_, _, _, _, by rw [Memory.cells_put_self]; exact taken⟩
  | elsewhere same => exact .inl (same .log q.log (beq_self_eq_true q.log))
  | clock | use | begins | stops | keeps | releases => exact .inl rfl

theorem Step.provider_cases (step : q.Step s t) :
    t.cells .provider q.provider = s.cells .provider q.provider ∨
      Provider.Use (s.cells .provider q.provider) (t.cells .provider q.provider) ∨
      t.cells .provider q.provider = .released := by
  cases step with
  | keeps uses => exact .inr (.inl (by rwa [Memory.cells_put_self]))
  | releases => exact .inr (.inr (Memory.cells_put_self s _))
  | elsewhere same => exact .inl (same .provider q.provider (beq_self_eq_true q.provider))
  | clock | append | use | begins | stops => exact .inl rfl

/-- A clock goes by its operations. -/
theorem Goes.clock (goes : q.Goes s t) :
    ∃ ops, t.cells .clock q.clock = (s.cells .clock q.clock).inSequence ops := by
  induction goes with
  | refl => exact ⟨[], rfl⟩
  | tail _ step ih =>
    obtain ⟨ops, went⟩ := ih
    rcases step.clock_cases with same | ⟨op, changed⟩
    · exact ⟨ops, same.trans went⟩
    · refine ⟨ops ++ [op], ?_⟩
      rw [changed, FakeClock.inSequence_append, ← went]
      rfl

/-- A log keeps its source, its capacity and its records. -/
theorem Goes.log (goes : q.Goes s t) :
    (t.cells .log q.log).source = (s.cells .log q.log).source ∧
      (t.cells .log q.log).capacity = (s.cells .log q.log).capacity ∧
      (s.cells .log q.log).records <+: (t.cells .log q.log).records := by
  induction goes with
  | refl => exact ⟨rfl, rfl, List.prefix_refl _⟩
  | tail _ step ih =>
    rcases step.log_cases with same | ⟨stream, kind, payload, r, taken⟩
    · rwa [same]
    · obtain ⟨source, capacity, grown⟩ := ih
      obtain ⟨-, left⟩ := EventLog.appendPayload_of_ok taken
      rw [left]
      exact ⟨source, capacity, grown.trans (List.prefix_append _ _)⟩

/-- A record that has come to a log has the time that the clock of the log showed when it came, and the
number of those that were there then. -/
theorem Goes.recorded (goes : q.Goes s t) {r : EventRecord} (there : r ∈ (t.cells .log q.log).records) :
    r ∈ (s.cells .log q.log).records ∨ ∃ u, q.Goes s u ∧ q.Goes u t ∧
      r.recordedAt = u.showing (s.cells .log q.log).source ∧ r.sequence = (u.cells .log q.log).size := by
  induction goes with
  | refl => exact .inl there
  | @tail u t before step ih =>
    have onward : r ∈ (u.cells .log q.log).records → r ∈ (s.cells .log q.log).records ∨
        ∃ u, q.Goes s u ∧ q.Goes u t ∧ r.recordedAt = u.showing (s.cells .log q.log).source ∧
          r.sequence = (u.cells .log q.log).size := by
      intro earlier
      refine (ih earlier).imp_right ?_
      rintro ⟨u', first, second, time, number⟩
      exact ⟨u', first, second.tail step, time, number⟩
    rcases step.log_cases with same | ⟨stream, kind, payload, r', taken⟩
    · rw [same] at there
      exact onward there
    · obtain ⟨⟨v, made⟩, left⟩ := EventLog.appendPayload_of_ok taken
      rw [left] at there
      rcases List.mem_append.mp there with earlier | new
      · exact onward earlier
      · obtain rfl := List.mem_singleton.mp new
        rw [Goes.log before |>.1] at made
        exact .inr ⟨u, before, .single step, by rw [made]; rfl, by rw [made]; rfl⟩

/-- Until a provider is released, singletons are kept in it and nothing else becomes of it. -/
theorem Goes.provider (goes : q.Goes s t) :
    t.cells .provider q.provider = .released ∨
      Provider.Uses (s.cells .provider q.provider) (t.cells .provider q.provider) := by
  induction goes with
  | refl => exact .inr .refl
  | tail _ step ih =>
    rcases step.provider_cases with same | uses | released
    · rwa [same]
    · rcases ih with released | before
      · rw [released] at uses
        cases uses with
        | keep live _ _ => cases live
      · exact .inr (before.tail uses)
    · exact .inl released

end Premises

/-! ## What a host and its services do -/

/-- Whatever is done on behalf of a host changes a memory only by what can be done with the premises, and
so does a factory, a hook and whoever is woken or told of events. -/
structure Habits.Honest (habits : Habits E V F H ρ W) (q : Premises) (d : Deed) : Prop where
  make : ∀ f s, q.Goes s (habits.make d f s).2
  poll : ∀ r s, q.Goes s (habits.poll d r s).2
  abandon : ∀ r s, q.Goes s (habits.abandon d r s).2
  wake : ∀ w s, q.Goes s (habits.wake d w s).2
  discard : ∀ s, q.Goes s (habits.discard d s).2
  report : ∀ e s, q.Goes s (habits.report d e s).2

namespace Habits

variable {habits : Habits E V F H ρ W} {d : Deed} {s : Memory E V F H ρ W}

/-- The point in time that a source shows is looked up in the memory. -/
theorem timeOf_eq (source : TimeSource) (s : Memory E V F H ρ W) :
    timeOf source s = (s.showing source, s) := by
  cases source <;> rfl

theorem append_eq (log : Nat) (stream kind : String) (payload : Payload) (s : Memory E V F H ρ W) :
    habits.append d log stream kind payload s =
      (match (s.cells .log log).appendPayload stream kind payload
          (s.showing (s.cells .log log).source) with
        | .error e => return .appended (.error e)
        | .ok (l, r) => do
          (Memory.place .log log).write l
          habits.report d (.eventAppended r.sequence r.stream r.kind)
          return .appended (.ok r) : StateM (Memory E V F H ρ W) (HostAnswer V H)) s := by
  show (match (s.cells .log log).appendPayload stream kind payload
        (timeOf (s.cells .log log).source s).1 with
      | .error e => return .appended (.error e)
      | .ok (l, r) => do
        (Memory.place .log log).write l
        habits.report d (.eventAppended r.sequence r.stream r.kind)
        return .appended (.ok r) : StateM (Memory E V F H ρ W) (HostAnswer V H))
    (timeOf (s.cells .log log).source s).2 = _
  rw [timeOf_eq]

theorem append_of_taken {log : Nat} {stream kind : String} {payload : Payload} {l : EventLog}
    {r : EventRecord} (taken : (s.cells .log log).appendPayload stream kind payload
      (s.showing (s.cells .log log).source) = .ok (l, r)) :
    habits.append d log stream kind payload s = (.appended (.ok r),
      (habits.report d (.eventAppended r.sequence r.stream r.kind) (s.put .log log l)).2) := by
  rw [append_eq, taken]
  rfl

theorem append_of_refused {log : Nat} {stream kind : String} {payload : Payload} {e : LogError}
    (refused : (s.cells .log log).appendPayload stream kind payload
      (s.showing (s.cells .log log).source) = .error e) :
    habits.append d log stream kind payload s = (.appended (.error e), s) := by
  rw [append_eq, refused]
  rfl

theorem register_eq (hook : Hook H) (s : Memory E V F H ρ W) :
    habits.register d hook s =
      (match (s.cells .lifetime d.home).register hook with
        | .error e => return .registered (.error e)
        | .ok l => do
          (Memory.place .lifetime d.home).write l
          habits.report d (.hookRegistered hook.label)
          return .registered (.ok ()) : StateM (Memory E V F H ρ W) (HostAnswer V H)) s := rfl

theorem register_of_accepted {hook : Hook H} {l : Lifetime H W}
    (accepted : (s.cells .lifetime d.home).register hook = .ok l) :
    habits.register d hook s = (.registered (.ok ()),
      (habits.report d (.hookRegistered hook.label) (s.put .lifetime d.home l)).2) := by
  rw [register_eq, accepted]
  rfl

theorem register_of_refused {hook : Hook H} {e : DisposedError}
    (refused : (s.cells .lifetime d.home).register hook = .error e) :
    habits.register d hook s = (.registered (.error e), s) := by
  rw [register_eq, refused]
  rfl

end Habits

namespace Habits.Honest

variable {habits : Habits E V F H ρ W} {q : Premises} {d : Deed} {s t : Memory E V F H ρ W}

theorem goes_wakes (honest : habits.Honest q d) (ws : List W) (s : Memory E V F H ρ W) :
    q.Goes s (ws.forM (habits.wake d) s).2 := by
  induction ws generalizing s with
  | nil => exact .refl
  | cons w ws ih => exact (honest.wake w s).trans (ih _)

/-- A singleton that was to be made is kept in the provider of a host. -/
theorem goes_keep {i : Nat} {key : Capability} {kind : ServiceLifetime} {f : F} {v kept : V}
    {p : Provider V F} (toMake : (s.cells .provider i).lookup key = .toMake kind f)
    (lasting : kind ≠ .transient) (goes : q.Goes s t)
    (done : (t.cells .provider i).keep key v = .ok (p, kept)) : q.Goes t (t.put .provider i p) := by
  refine Premises.goes_keeps fun here => ?_
  subst here
  obtain ⟨services, live, single⟩ := Provider.registered_of_toMake toMake lasting
  rcases goes.provider with released | uses
  · rw [released] at done
    cases done
  · obtain ⟨services', live', same⟩ := uses.registry_eq live
    rw [← same] at single
    exact .keep live' single done

theorem goes_resolve (honest : habits.Honest q d) (key : Capability) (s : Memory E V F H ρ W) :
    q.Goes s (habits.resolve d key s).2 :=
  keeps_resolve_from (P := q.Goes s) (fun f t before => before.trans (honest.make f t))
    (fun _ _ t before => before.trans (honest.report _ t))
    (fun _ _ toMake lasting _ _ _ _ before done =>
      before.trans (goes_keep toMake lasting before done)) .refl

theorem goes_append (honest : habits.Honest q d) (log : Nat) (stream kind : String)
    (payload : Payload) (s : Memory E V F H ρ W) :
    q.Goes s (habits.append d log stream kind payload s).2 := by
  cases tried : (s.cells .log log).appendPayload stream kind payload
      (s.showing (s.cells .log log).source) with
  | error e =>
    rw [append_of_refused tried]
  | ok result =>
    rw [append_of_taken tried]
    exact (Premises.goes_append tried).trans (honest.report _ _)

theorem goes_register (honest : habits.Honest q d) (hook : Hook H) (s : Memory E V F H ρ W) :
    q.Goes s (habits.register d hook s).2 := by
  cases tried : (s.cells .lifetime d.home).register hook with
  | error e =>
    rw [register_of_refused tried]
  | ok l =>
    rw [register_of_accepted tried]
    exact (Premises.goes_use (.register tried)).trans (honest.report _ _)

/-- Once a clock was moved, what follows are events that are reported and those who are woken. -/
theorem goes_moved (honest : habits.Honest q d) (i : Nat) {delta : Duration}
    (moves : delta.isZero = false) (s : Memory E V F H ρ W) :
    q.Goes (s.put .clock i ((s.cells .clock i).advance delta).1)
      (FakeClock.advanceAt (Memory.place .clock i)
        (fun woken => habits.report d (.clockAdvanced delta woken)) (habits.wake d) delta s).2 := by
  unfold FakeClock.advanceAt
  rw [moves]
  exact (honest.report _ _).trans (honest.goes_wakes _ _)

theorem goes_advance (honest : habits.Honest q d) (i : Nat) (delta : Duration)
    (s : Memory E V F H ρ W) : q.Goes s (FakeClock.advanceAt (Memory.place .clock i)
      (fun woken => habits.report d (.clockAdvanced delta woken)) (habits.wake d) delta s).2 := by
  cases still : delta.isZero with
  | true =>
    unfold FakeClock.advanceAt
    rw [still]
    exact .refl
  | false => exact (Premises.goes_clock q s i (.advance delta)).trans (honest.goes_moved i still s)

/-- **All that is done with a host goes by the changes that can be made to its premises**, wherever the
host is. -/
theorem obeys (honest : habits.Honest q d) (lifetime provider : Nat) :
    (habits.stage d).Obeys lifetime provider (fun act => ∀ s, q.Goes s (act s).2) q.Goes where
  refl _ := .refl
  trans := .trans
  timer t s := Premises.goes_put fun here => by cases here
  report := honest.report
  poll := honest.poll
  abandon := honest.abandon
  enters h _ s := (Premises.goes_begins q s h.lifetime).trans
    ((honest.goes_wakes _ _).trans (honest.report _ _))
  stops h _ s := (Premises.goes_stops q s h.lifetime).trans (honest.goes_wakes _ _)
  releases h _ s := (Premises.goes_releases q s h.provider).trans (honest.discard _)
  registers s hook l accepted := Premises.goes_use (.register accepted)
  keeps s s' key kind f v p kept toMake lasting goes done := goes_keep toMake lasting goes done
  around act allowed := allowed

/-! ## Operations -/

theorem goes_settle (d : Deed) (h : Host) (step : Step (Disposal H ρ) (Host × ShutdownReport))
    (s : Memory E V F H ρ W) :
    q.Goes s ((settle d h step : StateM (Memory E V F H ρ W) (HostAnswer V H)) s).2 := by
  cases step <;> exact Premises.goes_put fun here => by cases here

theorem goes_giveUp (honest : habits.Honest q d) (x : Tenant H ρ) (s : Memory E V F H ρ W) :
    q.Goes s (habits.giveUp d x s).2 := by
  unfold giveUp
  cases x.disposal with
  | none => exact .refl
  | some disposal =>
    exact obeys_cancelDisposal (honest.obeys x.host.lifetime x.host.provider) ⟨rfl, rfl⟩ disposal s

theorem goes_dispose [BEq W] (honest : habits.Honest q d) (x : Tenant H ρ) (s : Memory E V F H ρ W) :
    q.Goes s (habits.dispose d x s).2 := by
  unfold dispose
  cases x.disposal with
  | none =>
    exact (obeys_dispose (honest.obeys x.host.lifetime x.host.provider) ⟨rfl, rfl⟩ s).trans
      (goes_settle d x.host _ _)
  | some disposal =>
    exact (obeys_pollDisposal (honest.obeys disposal.host.lifetime disposal.host.provider) ⟨rfl, rfl⟩
      disposal.shutdown s).trans (goes_settle d x.host _ _)

theorem goes_within {part : Part} {i : Nat} {act : StateM (Memory E V F H ρ W) (HostAnswer V H)}
    (acts : ∀ s, q.Goes s (act s).2) (s : Memory E V F H ρ W) : q.Goes s (within d part i act s).2 := by
  unfold within
  split
  · exact acts s
  · exact .refl

theorem goes_withTenant {act : Tenant H ρ → StateM (Memory E V F H ρ W) (HostAnswer V H)}
    (acts : ∀ x s, q.Goes s (act x s).2) (s : Memory E V F H ρ W) :
    q.Goes s (withTenant d act s).2 := by
  have looked : (Memory.place .host d.home).read s = (s.cells .host d.home, s) := rfl
  simp only [withTenant, bind, StateT.bind, looked]
  cases s.cells .host d.home with
  | none => exact .refl
  | some x => exact acts x s

/-- **Every operation goes by the changes that can be made to the premises of a host**, on whose behalf
ever it is performed. -/
theorem goes_perform [BEq W] (honest : habits.Honest q d) (op : HostOp H W) (s : Memory E V F H ρ W) :
    q.Goes s (habits.perform d op s).2 := by
  cases op with
  | resolve key => exact honest.goes_resolve key s
  | advance i delta => exact goes_within (fun s => honest.goes_advance i delta s) s
  | sleep i duration => exact goes_within (fun s => Premises.goes_clock q s i (.sleep duration)) s
  | pollSleep i id w => exact goes_within (fun s => Premises.goes_clock q s i (.poll id w)) s
  | dropSleep i id => exact goes_within (fun s => Premises.goes_clock q s i (.drop id)) s
  | append i stream kind payload =>
    exact goes_within (fun s => honest.goes_append i stream kind payload s) s
  | register hook => exact honest.goes_register hook s
  | wait goal => exact Premises.goes_use (.wait _ goal)
  | pollWait id w => exact Premises.goes_use (.poll _ id w)
  | dropWait id => exact Premises.goes_use (.cancel _ id)
  | dispose => exact goes_withTenant (fun x s => honest.goes_dispose x s) s
  | interrupt =>
    exact goes_withTenant (fun x s => (honest.goes_giveUp x s).trans
      (Premises.goes_put fun here => by cases here)) s
  | drop =>
    exact goes_withTenant (fun x s => (honest.goes_giveUp x s).trans
      ((obeys_drop (honest.obeys x.host.lifetime x.host.provider) ⟨rfl, rfl⟩ _).trans
        (Premises.goes_put fun here => by cases here))) s
  | readClock i => exact goes_within (fun s => .refl) s
  | readLog i => exact goes_within (fun s => .refl) s
  | readHost => exact goes_withTenant (fun x s => .refl) s
  | contains key => exact .refl
  | types => exact .refl
  | readLifetime => exact .refl

end Habits.Honest

end HostBench
