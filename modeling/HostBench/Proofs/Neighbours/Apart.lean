/-
  Hosts that share nothing but a registry do not affect each other. `Alike` ties a street to one on which
  nothing is done with the host of the other side: whatever does not belong to that host is the same on
  both. Each move keeps it so (`Alike.perform`), and what is done with the other host is not seen
  (`Alike.perform_other`).

  `hosts_apart` is what this comes to over any number of moves: all answers of a host and all that belongs
  to it are as if nothing had been done with the other, and a host with which nothing was done is as it
  was built.
-/
import HostBench.Proofs.Neighbours.Street

namespace HostBench

variable {E V F H ρ W : Type}

/-! ## One street beside another -/

/-- The answers that are for the host of a side. -/
def answersOf (side : Side) (answers : List (Side × HostAnswer V H)) : List (HostAnswer V H) :=
  answers.filterMap fun answer => if answer.1 = side then some answer.2 else none

theorem answersOf_append (side : Side) (answers later : List (Side × HostAnswer V H)) :
    answersOf side (answers ++ later) = answersOf side answers ++ answersOf side later :=
  List.filterMap_append

/-- An answer for the other host is none for this one. -/
theorem answersOf_other (side : Side) (answer : HostAnswer V H) :
    answersOf side [(side.other, answer)] = [] := by
  simp [answersOf, side.other_ne]

/-- Nothing tells two streets apart but what belongs to the host of the other side. -/
structure Alike (side : Side) (x y : Street E V F H ρ W) : Prop where
  deeds_eq : y.deeds = x.deeds
  next_eq : y.memory.next = x.memory.next
  cells_eq : ∀ part i, (∀ d, x.deeds side.other = some d → d.owns part i = false) →
    y.memory.cells part i = x.memory.cells part i

variable {plots : Side → Plot V F H}
  {s : Memory E V F H ρ W} {x y : Street E V F H ρ W} {side : Side} {d : Deed}

theorem Memory.cells_found_congr {s t : Memory E V F H ρ W} (p : Blueprint V F H W)
    (next_eq : t.next = s.next) {part : Part} {i : Nat}
    (same : t.cells part i = s.cells part i) :
    (t.found p).cells part i = (s.found p).cells part i := by
  by_cases new : i = s.next
  · subst new
    rw [s.cells_found_next p part, ← next_eq, t.cells_found_next p part]
    cases part with
    | clock => rw [← next_eq] at same; exact same
    | object => rw [← next_eq] at same; exact same
    | log | provider | lifetime | timer | host => rfl
  · have new' : i ≠ t.next := fun eq => new (eq.trans next_eq)
    rw [s.cells_found_of_ne p part new, t.cells_found_of_ne p part new', same]

namespace Alike

theorem refl (side : Side) (x : Street E V F H ρ W) : Alike side x x :=
  ⟨rfl, rfl, fun _ _ _ => rfl⟩

/-- All that belongs to a host is the same on both streets. -/
theorem agree (alike : Alike side x y) (separate : Separate plots s) (sound : Sound plots s x)
    (built : x.deeds side = some d) : d.Agree x.memory y.memory := fun part i owned =>
  (alike.cells_eq part i fun _ built' => sound.foreign separate built built' owned).symm

/-- Something is done with the host on both streets. -/
theorem confined {α : Type} {m : StateM (Memory E V F H ρ W) α} (alike : Alike side x y)
    (separate : Separate plots s) (sound : Sound plots s x) (built : x.deeds side = some d)
    (confined : Confined d m) : (m y.memory).1 = (m x.memory).1 ∧
      Alike side { x with memory := (m x.memory).2 } { y with memory := (m y.memory).2 } := by
  have order := sound.order built
  have agree := alike.agree separate sound built
  have spares := confined.spares _ order
  have spares' := confined.spares _ (order.of_agree agree)
  refine ⟨(confined.answers _ _ order agree).symm, alike.deeds_eq, ?_, fun part i foreign => ?_⟩
  · exact spares'.next_eq.trans (alike.next_eq.trans spares.next_eq.symm)
  · cases owned : d.owns part i with
    | true => exact (confined.agrees _ _ order agree part i owned).symm
    | false =>
      calc (m y.memory).2.cells part i = y.memory.cells part i := spares'.cells_eq part i owned
        _ = x.memory.cells part i := alike.cells_eq part i foreign
        _ = (m x.memory).2.cells part i := (spares.cells_eq part i owned).symm

/-- Whatever happens to the things of the other host is not seen. -/
theorem of_spares {t t' : Memory E V F H ρ W} (alike : Alike side x y)
    (built : x.deeds side.other = some d) (spares : d.Spares x.memory t)
    (spares' : d.Spares y.memory t') :
    Alike side { x with memory := t } { y with memory := t' } where
  deeds_eq := alike.deeds_eq
  next_eq := spares'.next_eq.trans (alike.next_eq.trans spares.next_eq.symm)
  cells_eq part i foreign := by
    have owned := foreign d built
    calc t'.cells part i = y.memory.cells part i := spares'.cells_eq part i owned
      _ = x.memory.cells part i := alike.cells_eq part i foreign
      _ = t.cells part i := (spares.cells_eq part i owned).symm

/-- The same host is built on both streets. -/
theorem settled (alike : Alike side x y) {side' : Side} (free : x.deeds side' = none)
    (plot : Plot V F H) (p : Blueprint V F H W) :
    Alike side (x.settled side' plot p) (y.settled side' plot p) where
  deeds_eq := by
    unfold Street.settled Street.nextDeed
    rw [alike.deeds_eq, alike.next_eq]
  next_eq := congrArg (· + 1) alike.next_eq
  cells_eq part i foreign := by
    refine Memory.cells_found_congr p alike.next_eq (alike.cells_eq part i fun d built => ?_)
    refine foreign d ?_
    by_cases same : side.other = side'
    · rw [same, free] at built
      cases built
    · exact (Function.update_of_ne same _ _).trans built

variable [BEq W] {habits : Habits E V F H ρ W}

/-- What is not done with the other host is seen on both streets. -/
theorem perform (alike : Alike side x y) (loyal : habits.Loyal) (mint : Nat → BuiltIn → V)
    (separate : Separate plots s) (sound : Sound plots s x) (sound' : Sound plots s y) {m : Move H W}
    (ours : m.isActOf side.other = false) :
    (m.perform habits mint plots y).1 = (m.perform habits mint plots x).1 ∧
      Alike side (m.perform habits mint plots x).2 (m.perform habits mint plots y).2 := by
  cases m with
  | build side' =>
    cases known : x.deeds side' with
    | some d => simpa only [Move.perform, alike.deeds_eq, known] using ⟨trivial, alike⟩
    | none =>
      cases built : (plots side').blueprint W mint x.memory.next with
      | error e =>
        simpa only [Move.perform, alike.deeds_eq, alike.next_eq, known, built] using ⟨trivial, alike⟩
      | ok p =>
        simpa only [Move.perform, alike.deeds_eq, alike.next_eq, known, built] using
          ⟨trivial, alike.settled known (plots side') p⟩
  | act side' op =>
    rcases side.eq_or_eq_other side' with rfl | rfl
    · cases known : x.deeds side' with
      | none => simpa only [Move.perform, alike.deeds_eq, known] using ⟨trivial, alike⟩
      | some d =>
        have known' : y.deeds side' = some d := by rw [alike.deeds_eq, known]
        obtain ⟨answer_eq, alike'⟩ := alike.confined separate sound known (loyal.perform op)
        simpa only [Move.perform, known, known', answer_eq] using ⟨trivial, alike'⟩
    · simp [Move.isActOf] at ours
  | pass side' change =>
    cases known : x.deeds side' with
    | none => simpa only [Move.perform, alike.deeds_eq, known] using ⟨trivial, alike⟩
    | some d =>
      have known' : y.deeds side' = some d := by rw [alike.deeds_eq, known]
      have passes : Confined d (d.pass change : StateM (Memory E V F H ρ W) Unit) :=
        d.confined_pass change
      rcases side.eq_or_eq_other side' with rfl | rfl
      · obtain ⟨-, alike'⟩ := alike.confined separate sound known passes
        simpa only [Move.perform, known, known'] using ⟨trivial, alike'⟩
      · have alike' := alike.of_spares known (passes.spares _ (sound.order known))
          (passes.spares _ (sound'.order known'))
        simpa only [Move.perform, known, known'] using ⟨trivial, alike'⟩

/-- What is done with the other host is not seen. -/
theorem perform_other (alike : Alike side x y) (loyal : habits.Loyal) (mint : Nat → BuiltIn → V)
    (sound : Sound plots s x) (op : HostOp H W) :
    answersOf side ((Move.act side.other op).perform habits mint plots x).1 = [] ∧
      Alike side ((Move.act side.other op).perform habits mint plots x).2 y := by
  cases known : x.deeds side.other with
  | none =>
    simp only [Move.perform, known]
    exact ⟨answersOf_other side _, alike⟩
  | some d =>
    have confined : Confined d (habits.perform d op) := loyal.perform op
    simp only [Move.perform, known]
    exact ⟨answersOf_other side _,
      alike.of_spares known (confined.spares _ (sound.order known)) (.refl d y.memory)⟩

/-- Over any number of moves the answers for the host are the same, and the streets stay alike. -/
theorem run (loyal : habits.Loyal) (mint : Nat → BuiltIn → V) (separate : Separate plots s)
    (moves : List (Move H W)) (alike : Alike side x y) (sound : Sound plots s x) (sound' : Sound plots s y) :
    answersOf side (Move.run habits mint plots (moves.filter (!·.isActOf side.other)) y).1 =
        answersOf side (Move.run habits mint plots moves x).1 ∧
      Alike side (Move.run habits mint plots moves x).2
        (Move.run habits mint plots (moves.filter (!·.isActOf side.other)) y).2 := by
  induction moves generalizing x y with
  | nil => exact ⟨rfl, alike⟩
  | cons m moves ih =>
    have next := sound.perform loyal mint separate m
    cases theirs : m.isActOf side.other with
    | true =>
      obtain ⟨op, rfl⟩ := Move.eq_act_of_isActOf theirs
      obtain ⟨none, alike'⟩ := alike.perform_other loyal mint sound op
      obtain ⟨answers, ending⟩ := ih alike' next sound'
      rw [List.filter_cons_of_neg (by simp [theirs])]
      refine ⟨?_, ending⟩
      show _ = answersOf side (_ ++ _)
      rw [answersOf_append, none, List.nil_append]
      exact answers
    | false =>
      obtain ⟨same, alike'⟩ := alike.perform loyal mint separate sound sound' theirs
      obtain ⟨answers, ending⟩ := ih alike' next (sound'.perform loyal mint separate m)
      rw [List.filter_cons_of_pos (by simp [theirs])]
      refine ⟨?_, ending⟩
      show answersOf side (_ ++ _) = answersOf side (_ ++ _)
      rw [answersOf_append, answersOf_append, same]
      exact congrArg _ answers

end Alike

/-! ## Hosts with which nothing was done -/

/-- A host is as it was built: its provider holds what was registered and has made nothing, its lifetime
runs with the hooks of the builder, and its own log is empty. -/
structure Deed.AsBuilt (d : Deed) (p : Blueprint V F H W) (s : Memory E V F H ρ W) : Prop where
  provider : s.cells .provider d.home = .ofRegistry p.registry
  lifetime : s.cells .lifetime d.home = p.lifetime
  host : s.cells .host d.home = some ⟨.new p.settings d.home d.home, none⟩
  log : ∀ l, p.eventLog = some l → s.cells .log d.home = l

theorem Deed.AsBuilt.of_eq {p : Blueprint V F H W} {t : Memory E V F H ρ W} (built : d.AsBuilt p s)
    (same : ∀ part, d.owns part d.home = true → part ≠ .timer →
      t.cells part d.home = s.cells part d.home) : d.AsBuilt p t where
  provider := (same .provider (decide_eq_true rfl) (by decide)).trans built.provider
  lifetime := (same .lifetime (decide_eq_true rfl) (by decide)).trans built.lifetime
  host := (same .host d.owns_host (by decide)).trans built.host
  log l made := (same .log (by simp [Deed.owns]) (by decide)).trans (built.log l made)

/-- The host of a side, if there is one, is as it was built, and so are the clocks and logs that its
builder was given. -/
structure Untouched (mint : Nat → BuiltIn → V) (plots : Side → Plot V F H)
    (s : Memory E V F H ρ W) (side : Side) (x : Street E V F H ρ W) : Prop where
  clocks : ∀ c ∈ (plots side).goods.clocks, x.memory.cells .clock c = s.cells .clock c
  logs : ∀ l ∈ (plots side).goods.logs, x.memory.cells .log l = s.cells .log l
  as_built : ∀ d, x.deeds side = some d →
    ∃ p, (plots side).blueprint W mint d.home = .ok p ∧ d.AsBuilt p x.memory

namespace Untouched

variable {mint : Nat → BuiltIn → V}

theorem of_eq (untouched : Untouched mint plots s side x) (deeds_eq : y.deeds side = x.deeds side)
    (clocks : ∀ c ∈ (plots side).goods.clocks, y.memory.cells .clock c = x.memory.cells .clock c)
    (logs : ∀ l ∈ (plots side).goods.logs, y.memory.cells .log l = x.memory.cells .log l)
    (home : ∀ d, x.deeds side = some d → ∀ part, d.owns part d.home = true → part ≠ .timer →
      y.memory.cells part d.home = x.memory.cells part d.home) :
    Untouched mint plots s side y where
  clocks c given := (clocks c given).trans (untouched.clocks c given)
  logs l given := (logs l given).trans (untouched.logs l given)
  as_built d built := by
    rw [deeds_eq] at built
    obtain ⟨p, made, as_built⟩ := untouched.as_built d built
    exact ⟨p, made, as_built.of_eq (home d built)⟩

/-- Whatever is confined to the other host leaves this one untouched. -/
theorem confined_other {α : Type} {m : StateM (Memory E V F H ρ W) α}
    (untouched : Untouched mint plots s side x) (separate : Separate plots s)
    (sound : Sound plots s x) (built : x.deeds side.other = some d) (confined : Confined d m) :
    Untouched mint plots s side { x with memory := (m x.memory).2 } := by
  have spares := confined.spares _ (sound.order built)
  refine untouched.of_eq rfl (fun c given => ?_) (fun l given => ?_) fun d' built' part owned _ => ?_
  · refine spares.cells_eq .clock c (decide_eq_false ?_)
    rw [sound.goods_eq built]
    exact (separate.goods side).clocks c given
  · exact spares.cells_eq .log l (sound.foreign_log separate built given)
  · exact spares.cells_eq part d'.home (sound.foreign separate built' built owned)

/-- Time may pass for a host, or it may have another turn. -/
theorem passed (untouched : Untouched mint plots s side x) (d : Deed) (change : Timer W → Timer W) :
    Untouched mint plots s side { x with memory := (d.pass change x.memory).2 } := by
  have kept : ∀ part i, part ≠ .timer →
      (d.pass change x.memory).2.cells part i = x.memory.cells part i := fun part i other =>
    x.memory.cells_put_of_ne _ fun same => absurd same other
  exact untouched.of_eq rfl (fun c _ => kept .clock c (by decide)) (fun l _ => kept .log l (by decide))
    fun d' _ part _ other => kept part d'.home other

/-- A host is as it was built when it is built. -/
theorem settled (untouched : Untouched mint plots s side x) (separate : Separate plots s)
    (sound : Sound plots s x) {p : Blueprint V F H W}
    (built : (plots side).blueprint W mint x.memory.next = .ok p) :
    Untouched mint plots s side (x.settled side (plots side) p) where
  clocks c given := (x.memory.cells_found_clock p c).trans (untouched.clocks c given)
  logs l given := (sound.log_found separate p given).trans (untouched.logs l given)
  as_built d known := by
    rcases deeds_update known with ⟨-, rfl⟩ | ⟨other, -⟩
    · exact ⟨p, built, x.memory.cells_found_next p .provider, x.memory.cells_found_next p .lifetime,
        x.memory.cells_found_next p .host, fun l made =>
          (x.memory.cells_found_next p .log).trans (by rw [Blueprint.content, made]; rfl)⟩
    · exact absurd rfl other

/-- To build the other host leaves this one untouched. -/
theorem settled_other (untouched : Untouched mint plots s side x) (separate : Separate plots s)
    (sound : Sound plots s x) (p : Blueprint V F H W) :
    Untouched mint plots s side (x.settled side.other (plots side.other) p) :=
  untouched.of_eq (Function.update_of_ne side.other_ne.symm _ _)
    (fun c _ => x.memory.cells_found_clock p c) (fun _ given => sound.log_found separate p given)
    fun d built part owned _ => (sound.agree_found separate built p part d.home owned).symm

variable [BEq W] {habits : Habits E V F H ρ W}

/-- Whatever move is made, if nothing is done with a host, it is left untouched. -/
theorem perform (untouched : Untouched mint plots s side x) (loyal : habits.Loyal)
    (separate : Separate plots s) (sound : Sound plots s x) {m : Move H W}
    (idle : m.isActOf side = false) :
    Untouched mint plots s side (m.perform habits mint plots x).2 := by
  cases m with
  | build side' =>
    cases known : x.deeds side' with
    | some d => simpa only [Move.perform, known] using untouched
    | none =>
      cases built : (plots side').blueprint W mint x.memory.next with
      | error e => simpa only [Move.perform, known, built] using untouched
      | ok p =>
        rcases side.eq_or_eq_other side' with rfl | rfl
        · simpa only [Move.perform, known, built] using untouched.settled separate sound built
        · simpa only [Move.perform, known, built] using untouched.settled_other separate sound p
  | act side' op =>
    cases known : x.deeds side' with
    | none => simpa only [Move.perform, known] using untouched
    | some d =>
      rcases side.eq_or_eq_other side' with rfl | rfl
      · simp [Move.isActOf] at idle
      · simpa only [Move.perform, known] using
          untouched.confined_other separate sound known (loyal.perform op)
  | pass side' change =>
    cases known : x.deeds side' with
    | none => simpa only [Move.perform, known] using untouched
    | some d =>
      rcases side.eq_or_eq_other side' with rfl | rfl
      · simpa only [Move.perform, known] using untouched.passed d change
      · simpa only [Move.perform, known] using
          untouched.confined_other separate sound known (d.confined_pass change)

theorem run (loyal : habits.Loyal) (separate : Separate plots s) (moves : List (Move H W))
    (idle : ∀ m ∈ moves, m.isActOf side = false) (untouched : Untouched mint plots s side x)
    (sound : Sound plots s x) :
    Untouched mint plots s side (Move.run habits mint plots moves x).2 := by
  induction moves generalizing x with
  | nil => exact untouched
  | cons m moves ih =>
    exact ih (fun m' later => idle m' (List.mem_cons_of_mem _ later))
      (untouched.perform loyal separate sound (idle m List.mem_cons_self))
      (sound.perform loyal mint separate m)

end Untouched

/-! ## What can be seen of a host -/

/-- What can be seen of a host. -/
structure HostView (V H : Type) where
  /-- The singletons that were made, until the services are released. -/
  singletons : Option (List (Capability × V))
  /-- How far each clock has moved, and how many sleeps it lists. -/
  clocks : List (Duration × Nat)
  logs : List (List EventRecord)
  phase : Phase
  hooks : List (Hook H)
  report : Option ShutdownReport

/-- What can be seen of the host with a deed. -/
def Deed.view (d : Deed) (s : Memory E V F H ρ W) : HostView V H where
  singletons := (s.cells .provider d.home).services.map (·.singletons)
  clocks := d.goods.clocks.map fun c =>
    ((s.cells .clock c).elapsed, (s.cells .clock c).pendingSleepers)
  logs := (d.home :: d.goods.logs).map fun l => (s.cells .log l).records
  phase := (s.cells .lifetime d.home).phase
  hooks := (s.cells .lifetime d.home).hooks
  report := (s.cells .host d.home).bind (·.host.report)

theorem Deed.Agree.view_eq {t : Memory E V F H ρ W} (agree : d.Agree s t) : d.view s = d.view t := by
  have clocks : ∀ c ∈ d.goods.clocks,
      ((s.cells .clock c).elapsed, (s.cells .clock c).pendingSleepers) =
        ((t.cells .clock c).elapsed, (t.cells .clock c).pendingSleepers) := fun c given => by
    rw [agree .clock c (decide_eq_true given)]
  have logs : ∀ l ∈ d.home :: d.goods.logs,
      (s.cells .log l).records = (t.cells .log l).records := fun l own => by
    rw [agree .log l (by simpa [Deed.owns] using own)]
  unfold Deed.view
  rw [agree .provider d.home (decide_eq_true rfl), agree .lifetime d.home (decide_eq_true rfl),
    agree .host d.home d.owns_host, List.map_congr_left clocks, List.map_congr_left logs]

/-! ## Hosts apart -/

/-- The host of a side is not affected by what tells two outcomes apart. -/
structure Unaffected (side : Side)
    (mixed alone : List (Side × HostAnswer V H) × Street E V F H ρ W) : Prop where
  answers : answersOf side mixed.1 = answersOf side alone.1
  deeds : mixed.2.deeds = alone.2.deeds
  /-- All that belongs to the host is the same. -/
  things : ∀ d, mixed.2.deeds side = some d → d.Agree mixed.2.memory alone.2.memory
  /-- In particular what can be seen of it. -/
  view : ∀ d, mixed.2.deeds side = some d → d.view mixed.2.memory = d.view alone.2.memory

/-- Two hosts share nothing but what is in their registries, and what is done on behalf of one of them is
confined to it. Then each of them is as if nothing had been done with the other. If nothing was done with
it either, it is as it was built: it keeps no singleton, and all that was registered can be resolved. -/
theorem hosts_apart [BEq W] {habits : Habits E V F H ρ W} (loyal : habits.Loyal)
    (mint : Nat → BuiltIn → V) (separate : Separate plots s) (moves : List (Move H W))
    (side : Side) :
    Unaffected side (Move.run habits mint plots moves (.empty s))
        (Move.run habits mint plots (moves.filter (!·.isActOf side.other)) (.empty s)) ∧
      ((∀ m ∈ moves, m.isActOf side = false) →
        Untouched mint plots s side (Move.run habits mint plots moves (.empty s)).2) := by
  have sound := sound_empty separate
  obtain ⟨answers, alike⟩ :=
    Alike.run loyal mint separate moves (.refl side (.empty s)) sound sound
  have ending := sound.run loyal mint separate moves
  have things : ∀ d, (Move.run habits mint plots moves (.empty s)).2.deeds side = some d → _ :=
    fun d built => alike.agree separate ending built
  refine ⟨⟨answers.symm, alike.deeds_eq.symm, things, fun d built => (things d built).view_eq⟩,
    fun idle => .run loyal separate moves idle ?_ sound⟩
  exact ⟨fun _ _ => rfl, fun _ _ => rfl, fun _ none => by cases none⟩

/-! ## Twins -/

namespace Twins

/-- The registry that two builders hold. -/
def registry : Registry Nat Unit := ⟨[(⟨"counts"⟩, .singleton ())]⟩

/-- A factory counts the services of the host for which it is called, and hooks end at once. -/
def habits : Habits Unit Nat Unit Unit Unit Nat where
  make d _ := do return .ok (← (Memory.place .provider d.home).read).size
  start _ _ := ()
  poll _ _ := return .finished (.ok ())
  abandon _ _ := return ()
  waker d := d.home
  wake _ _ := return ()
  discard _ := return ()
  report _ _ := return ()

theorem loyal : habits.Loyal where
  make _ _ := Confined.bind (.read (decide_eq_true rfl)) fun _ => .pure _
  poll _ _ := .pure _
  abandon _ _ := .pure _
  wake _ _ := .pure _
  discard _ := .pure _
  report _ _ := .pure _

/-- Each builder has a clock of its own. -/
def clockOf : Side → Nat
  | .left => 0
  | .right => 1

def plotOf (side : Side) : Plot Nat Unit Unit where
  builder :=
    { (Builder.new (clockOf side) : Builder Nat Unit Unit) with
      registry := registry
      hooks := [⟨"flush", ()⟩] }
  goods := ⟨[clockOf side], [], []⟩

/-- A memory without hosts. -/
def memory : Memory Unit Nat Unit Unit Unit Nat where
  cells
    | .clock, _ => .withOrigin default
    | .log, _ => .empty .system none
    | .provider, _ => .released
    | .lifetime, _ => .new
    | .timer, _ => .start
    | .host, _ => none
    | .object, _ => ()
  next := 0

theorem separate : Separate plotOf memory where
  ready side := {
    clock := fun c (reads : TimeSource.fake (clockOf side) = .fake c) => by
      cases reads
      exact List.mem_cons_self
    logs_made := fun l (given : l ∈ []) => by cases given
    logs_read := fun l (given : l ∈ []) => by cases given }
  apart := ⟨by decide, by decide, by decide⟩

/-- Both are built, and the left one is used and dropped while the right one is used. -/
def moves : List (Move Unit Nat) :=
  [.build .left, .build .right, .act .left (.resolve ⟨"counts"⟩),
    .act .left (.advance 0 (.ofSeconds 90)), .act .left (.append 0 "job-1" "started" (.json .null)),
    .act .left .dispose, .act .left .drop, .act .right (.readClock 1), .act .right (.readLog 1),
    .act .right (.resolve ⟨"counts"⟩)]

end Twins

/-- The right one of two twins does not see what was done with the left one: its clock stands at the
start, its log is empty, and it counts its own services. -/
theorem twins_apart :
    (Twins.habits.Loyal ∧ Separate Twins.plotOf Twins.memory ∧
      Unaffected .right (Move.run Twins.habits (fun home _ => home) Twins.plotOf Twins.moves
          (.empty Twins.memory))
        (Move.run Twins.habits (fun home _ => home) Twins.plotOf
          (Twins.moves.filter (!·.isActOf .left)) (.empty Twins.memory))) ∧
    answersOf .right (Move.run Twins.habits (fun home _ => home) Twins.plotOf Twins.moves
        (.empty Twins.memory)).1 =
      [.built (.ok ()), .clock .zero (some default) 0, .records [], .resolved (.ok 7)] :=
  ⟨⟨Twins.loyal, Twins.separate,
    (hosts_apart Twins.loyal (fun home _ => home) Twins.separate Twins.moves .right).1⟩, by rfl⟩

end HostBench
