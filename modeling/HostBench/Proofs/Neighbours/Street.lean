/-
  Two hosts side by side in one memory. Each is built from a plot: a builder and the goods that it was
  given. The builders may hold the same registry, but no clock, log or object is among the goods of both
  (`Separate`). They are built, things are done with them and time passes for them, in any order
  (`Move`).

  `Sound` says that each host has its own things in order and that its deed has nothing in common with the
  other one (`Sound.foreign`). Whatever is confined to one of the deeds keeps this so (`Sound.of_confined`),
  and so does building (`Sound.of_found`), hence every move (`Sound.perform`).
-/
import HostBench.Proofs.Building.Histories
import HostBench.Proofs.Neighbours.Dealings

namespace HostBench

variable {E V F H ρ W : Type}

/-! ## Plots -/

/-- One of two hosts. -/
inductive Side where
  | left
  | right
  deriving DecidableEq

/-- The side of the other host. -/
def Side.other : Side → Side
  | .left => .right
  | .right => .left

theorem Side.other_other (side : Side) : side.other.other = side := by cases side <;> rfl

theorem Side.other_ne (side : Side) : side.other ≠ side := by cases side <;> decide

/-- A side is the one or the other. -/
theorem Side.eq_or_eq_other (side x : Side) : x = side ∨ x = side.other := by
  cases side <;> cases x <;> decide

/-- What a host is built from: its builder, and what the builder was given. -/
structure Plot (V F H : Type) where
  builder : Builder V F H
  goods : Goods

/-- There is nothing that is among the goods of both. -/
structure Goods.Apart (a b : Goods) : Prop where
  clocks : ∀ i ∈ a.clocks, i ∉ b.clocks
  logs : ∀ i ∈ a.logs, i ∉ b.logs
  objects : ∀ i ∈ a.objects, i ∉ b.objects

theorem Goods.Apart.symm {a b : Goods} (apart : a.Apart b) : b.Apart a where
  clocks i ours theirs := apart.clocks i theirs ours
  logs i ours theirs := apart.logs i theirs ours
  objects i ours theirs := apart.objects i theirs ours

namespace Plot

/-- The clock of the builder is among its goods, and its logs exist and read its own clocks. -/
structure Ready (plot : Plot V F H) (s : Memory E V F H ρ W) : Prop where
  clock : ∀ c, plot.builder.clock.source = .fake c → c ∈ plot.goods.clocks
  logs_made : ∀ l ∈ plot.goods.logs, l < s.next
  logs_read : ∀ l ∈ plot.goods.logs, ∀ c,
    (s.cells .log l).source = .fake c → c ∈ plot.goods.clocks

/-- What building the host at a home comes to. -/
def blueprint (W : Type) (plot : Plot V F H) (mint : Nat → BuiltIn → V) (home : Nat) :
    Except ConfigurationError (Blueprint V F H W) :=
  ((plot.builder.build (mint home) home home).run.run []).1

/-- The log that a host makes for itself reads the clock of its builder. -/
theorem source_of_blueprint {plot : Plot V F H} {mint : Nat → BuiltIn → V} {home : Nat}
    {p : Blueprint V F H W} (built : plot.blueprint W mint home = .ok p) {l : EventLog}
    (made : p.eventLog = some l) : l.source = plot.builder.clock.source := by
  unfold blueprint at built
  rw [Builder.result_build] at built
  split at built
  · cases built
  split at built
  · cases built
  split at built
  · cases built
  cases built
  split at made
  · cases made
    rfl
  · cases made

end Plot

/-- The plots of two hosts that share nothing but what is in their registries. -/
structure Separate (plots : Side → Plot V F H) (s : Memory E V F H ρ W) : Prop where
  ready : ∀ side, (plots side).Ready s
  apart : (plots .left).goods.Apart (plots .right).goods

theorem Separate.goods {plots : Side → Plot V F H} {s : Memory E V F H ρ W}
    (separate : Separate plots s) (side : Side) :
    (plots side).goods.Apart (plots side.other).goods := by
  cases side with
  | left => exact separate.apart
  | right => exact separate.apart.symm

/-! ## Homes -/

/-- What a host has at home when it is built. A host that was given a log has none of its own. -/
def Blueprint.content (p : Blueprint V F H W) (home : Nat)
    (before : (part : Part) → Content E V F H ρ W part) : (part : Part) → Content E V F H ρ W part
  | .log => p.eventLog.getD (.empty .system none)
  | .provider => .ofRegistry p.registry
  | .lifetime => p.lifetime
  | .timer => .start
  | .host => some ⟨.new p.settings home home, none⟩
  | .clock => before .clock
  | .object => before .object

namespace Memory

/-- Builds a host at the next address. -/
def found (s : Memory E V F H ρ W) (p : Blueprint V F H W) : Memory E V F H ρ W where
  cells part i :=
    if i = s.next then p.content s.next (fun part => s.cells part i) part else s.cells part i
  next := s.next + 1

variable (s : Memory E V F H ρ W) (p : Blueprint V F H W)

theorem cells_found_next (part : Part) :
    (s.found p).cells part s.next = p.content s.next (fun part => s.cells part s.next) part :=
  if_pos rfl

theorem cells_found_of_ne (part : Part) {i : Nat} (elsewhere : i ≠ s.next) :
    (s.found p).cells part i = s.cells part i := if_neg elsewhere

/-- To build a host leaves clocks and objects alone. -/
theorem cells_found_clock (i : Nat) : (s.found p).cells .clock i = s.cells .clock i := by
  by_cases same : i = s.next
  · subst same
    exact s.cells_found_next p .clock
  · exact s.cells_found_of_ne p .clock same

theorem cells_found_object (i : Nat) : (s.found p).cells .object i = s.cells .object i := by
  by_cases same : i = s.next
  · subst same
    exact s.cells_found_next p .object
  · exact s.cells_found_of_ne p .object same

end Memory

/-! ## Streets -/

/-- A memory with two hosts, and the deeds of those that are built. -/
structure Street (E V F H ρ W : Type) where
  memory : Memory E V F H ρ W
  deeds : Side → Option Deed

namespace Street

/-- Before the first move there are no hosts. -/
def empty (s : Memory E V F H ρ W) : Street E V F H ρ W := ⟨s, fun _ => none⟩

/-- The deed of a host that is built next. -/
def nextDeed (x : Street E V F H ρ W) (plot : Plot V F H) : Deed := ⟨x.memory.next, plot.goods⟩

/-- The host of a side is there from now on. -/
def settled (x : Street E V F H ρ W) (side : Side) (plot : Plot V F H) (p : Blueprint V F H W) :
    Street E V F H ρ W :=
  ⟨x.memory.found p, Function.update x.deeds side (some (x.nextDeed plot))⟩

end Street

/-- Time passes for the host with a deed, or it has another turn. -/
def Deed.pass (d : Deed) (change : Timer W → Timer W) : StateM (Memory E V F H ρ W) Unit := do
  let timer ← (Memory.place .timer d.home).read
  (Memory.place .timer d.home).write (change timer)

theorem Deed.confined_pass (d : Deed) (change : Timer W → Timer W) :
    Confined d (d.pass change : StateM (Memory E V F H ρ W) Unit) := by
  have timer : (Memory.place .timer d.home : Place (Memory E V F H ρ W) (Timer W)).Open
      (confinedKind E V F H ρ W d) := d.open_place (decide_eq_true rfl) (by decide) (by decide)
  exact Confined.bind timer.read fun _ => timer.write _

/-- One move. -/
inductive Move (H W : Type) where
  /-- The host of a side is built, if it is not yet. -/
  | build (side : Side)
  | act (side : Side) (op : HostOp H W)
  /-- Time passes for a host, or it has another turn. -/
  | pass (side : Side) (change : Timer W → Timer W)

namespace Move

/-- Something is done with the host of a side. -/
def isActOf (side : Side) : Move H W → Bool
  | .act x _ => decide (x = side)
  | .build _ | .pass _ _ => false

theorem eq_act_of_isActOf {side : Side} {m : Move H W} (acts : m.isActOf side = true) :
    ∃ op, m = .act side op := by
  cases m with
  | act x op =>
    obtain rfl := of_decide_eq_true acts
    exact ⟨op, rfl⟩
  | build x => cases acts
  | pass x change => cases acts

variable [BEq W] (habits : Habits E V F H ρ W) (mint : Nat → BuiltIn → V)
  (plots : Side → Plot V F H)

/-- Makes a move; its answer, if any, is for the host of the side. -/
def perform (x : Street E V F H ρ W) :
    Move H W → List (Side × HostAnswer V H) × Street E V F H ρ W
  | .build side =>
    match x.deeds side with
    | some _ => ([(side, .absent)], x)
    | none =>
      match (plots side).blueprint W mint x.memory.next with
      | .error e => ([(side, .built (.error e))], x)
      | .ok p => ([(side, .built (.ok ()))], x.settled side (plots side) p)
  | .act side op =>
    match x.deeds side with
    | none => ([(side, .absent)], x)
    | some d =>
      let result := habits.perform d op x.memory
      ([(side, result.1)], { x with memory := result.2 })
  | .pass side change =>
    match x.deeds side with
    | none => ([], x)
    | some d => ([], { x with memory := (d.pass change x.memory).2 })

/-- Makes moves one after the other. -/
def run : List (Move H W) → Street E V F H ρ W →
    List (Side × HostAnswer V H) × Street E V F H ρ W
  | [], x => ([], x)
  | m :: moves, x =>
    let first := m.perform habits mint plots x
    let rest := run moves first.2
    (first.1 ++ rest.1, rest.2)

end Move

/-! ## What every move keeps -/

/-- The things of each host are in order, its home is its own, and no log that a builder was given reads
a clock that it was not given. The memory was `s` before the first move. -/
structure Sound (plots : Side → Plot V F H) (s : Memory E V F H ρ W)
    (x : Street E V F H ρ W) : Prop where
  next_le : s.next ≤ x.memory.next
  goods_eq : ∀ {side d}, x.deeds side = some d → d.goods = (plots side).goods
  home_made : ∀ {side d}, x.deeds side = some d → s.next ≤ d.home
  home_lt : ∀ {side d}, x.deeds side = some d → d.home < x.memory.next
  homes_ne : ∀ {side d d'}, x.deeds side = some d → x.deeds side.other = some d' → d.home ≠ d'.home
  order : ∀ {side d}, x.deeds side = some d → d.InOrder x.memory
  logs_read : ∀ side, ∀ l ∈ (plots side).goods.logs, ∀ c,
    (x.memory.cells .log l).source = .fake c → c ∈ (plots side).goods.clocks

variable {plots : Side → Plot V F H} {s t : Memory E V F H ρ W} {x : Street E V F H ρ W}
  {side : Side} {d d' : Deed} {mint : Nat → BuiltIn → V}

theorem sound_empty (separate : Separate plots s) : Sound plots s (.empty s) where
  next_le := Nat.le_refl _
  goods_eq none := by cases none
  home_made none := by cases none
  home_lt none := by cases none
  homes_ne none := by cases none
  order none := by cases none
  logs_read side := (separate.ready side).logs_read

/-- Who has a deed has it from before, or has just got it. -/
theorem deeds_update {side side' : Side} {deeds : Side → Option Deed}
    (known : Function.update deeds side (some d) side' = some d') :
    side' = side ∧ d = d' ∨ side' ≠ side ∧ deeds side' = some d' := by
  by_cases same : side' = side
  · subst same
    rw [Function.update_self] at known
    exact .inl ⟨rfl, Option.some.inj known⟩
  · rw [Function.update_of_ne same] at known
    exact .inr ⟨same, known⟩

theorem other_built (built : x.deeds side = some d) : x.deeds side.other.other = some d := by
  rw [side.other_other]
  exact built

namespace Sound

/-- What was given to the builder of one host does not belong to the other. -/
theorem foreign_log (separate : Separate plots s) (sound : Sound plots s x)
    (built : x.deeds side.other = some d) {l : Nat} (given : l ∈ (plots side).goods.logs) :
    d.owns .log l = false := by
  have older : l < d.home := Nat.lt_of_lt_of_le ((separate.ready side).logs_made l given)
    (sound.home_made built)
  have not_theirs : l ∉ d.goods.logs := by
    rw [sound.goods_eq built]
    exact (separate.goods side).logs l given
  simp [Deed.owns, not_theirs, Nat.ne_of_lt older]

/-- What belongs to one host does not belong to the other. -/
theorem foreign (separate : Separate plots s) (sound : Sound plots s x)
    (built : x.deeds side = some d) (built' : x.deeds side.other = some d') {part : Part} {i : Nat}
    (owned : d.owns part i = true) : d'.owns part i = false := by
  have apart := separate.goods side
  rw [← sound.goods_eq built, ← sound.goods_eq built'] at apart
  refine Bool.eq_false_iff.mpr fun owned' => ?_
  rcases d.owns_cases owned with ⟨home, no_clock, no_object⟩ | ⟨rfl, ours⟩ | ⟨rfl, ours⟩ | ⟨rfl, ours⟩
  · rcases d'.owns_cases owned' with ⟨home', -⟩ | ⟨clock, -⟩ | ⟨rfl, theirs⟩ | ⟨object, -⟩
    · exact sound.homes_ne built built' (home.symm.trans home')
    · exact no_clock clock
    · rw [sound.goods_eq built'] at theirs
      rw [sound.foreign_log separate (other_built built) theirs] at owned
      cases owned
    · exact no_object object
  · exact apart.clocks i ours (of_decide_eq_true owned')
  · rw [sound.goods_eq built] at ours
    rw [sound.foreign_log separate built' ours] at owned'
    cases owned'
  · exact apart.objects i ours (of_decide_eq_true owned')

/-- What is confined to one deed leaves the things of the other one as they are. -/
theorem agree_of_spares (separate : Separate plots s) (sound : Sound plots s x)
    (built : x.deeds side = some d) (spares : d.Spares x.memory t)
    (built' : x.deeds side.other = some d') : d'.Agree x.memory t := by
  intro part i owned
  exact (spares.cells_eq part i (sound.foreign separate built' (other_built built) owned)).symm

/-- Whatever happens to the things of one host alone, and leaves them in order, keeps all sound. -/
theorem of_spares (separate : Separate plots s) (sound : Sound plots s x)
    (built : x.deeds side = some d) (spares : d.Spares x.memory t) (order : d.InOrder t) :
    Sound plots s { x with memory := t } where
  next_le := by
    rw [spares.next_eq]
    exact sound.next_le
  goods_eq := sound.goods_eq
  home_made := sound.home_made
  home_lt built' := by
    rw [spares.next_eq]
    exact sound.home_lt built'
  homes_ne := sound.homes_ne
  order {side' d'} built' := by
    rcases side.eq_or_eq_other side' with rfl | rfl
    · cases built.symm.trans built'
      exact order
    · exact (sound.order built').of_agree (sound.agree_of_spares separate built spares built')
  logs_read side' l given c reads := by
    rcases side.eq_or_eq_other side' with rfl | rfl
    · have owned : d.owns .log l = true := by
        rw [← sound.goods_eq built] at given
        simp [Deed.owns, given]
      have own := order.reads_own l owned c reads
      rw [← sound.goods_eq built]
      exact of_decide_eq_true own
    · have foreign := sound.foreign_log separate (other_built built) given
      rw [spares.cells_eq .log l foreign] at reads
      exact sound.logs_read side.other l given c reads

/-- Whatever is confined to one of the deeds keeps all sound. -/
theorem of_confined {α : Type} {m : StateM (Memory E V F H ρ W) α} (separate : Separate plots s)
    (sound : Sound plots s x) (built : x.deeds side = some d) (confined : Confined d m) :
    Sound plots s { x with memory := (m x.memory).2 } :=
  sound.of_spares separate built (confined.spares _ (sound.order built))
    (confined.order _ (sound.order built))

/-- To build a host leaves the logs alone that were given to builders. -/
theorem log_found (separate : Separate plots s) (sound : Sound plots s x) (p : Blueprint V F H W)
    {l : Nat} (given : l ∈ (plots side).goods.logs) :
    (x.memory.found p).cells .log l = x.memory.cells .log l :=
  x.memory.cells_found_of_ne p .log <| Nat.ne_of_lt <|
    Nat.lt_of_lt_of_le ((separate.ready side).logs_made l given) sound.next_le

/-- A host that is built takes nothing from what belongs to one that was built before. -/
theorem agree_found (separate : Separate plots s) (sound : Sound plots s x)
    (built : x.deeds side = some d) (p : Blueprint V F H W) :
    d.Agree x.memory (x.memory.found p) := by
  intro part i owned
  rcases d.owns_cases owned with ⟨rfl, -⟩ | ⟨rfl, -⟩ | ⟨rfl, given⟩ | ⟨rfl, -⟩
  · exact (x.memory.cells_found_of_ne p part (Nat.ne_of_lt (sound.home_lt built))).symm
  · exact (x.memory.cells_found_clock p i).symm
  · rw [sound.goods_eq built] at given
    exact (sound.log_found separate p given).symm
  · exact (x.memory.cells_found_object p i).symm

/-- A host is in order when it is built. -/
theorem order_found (separate : Separate plots s) (sound : Sound plots s x)
    {p : Blueprint V F H W} (built : (plots side).blueprint W mint x.memory.next = .ok p) :
    (x.nextDeed (plots side)).InOrder (x.memory.found p) where
  reads_own l owned c reads := by
    have given_reads : l ∈ (plots side).goods.logs → c ∈ (plots side).goods.clocks := fun given => by
      rw [sound.log_found separate p given] at reads
      exact sound.logs_read side l given c reads
    rcases Bool.or_eq_true _ _ |>.mp owned with home | given
    · have same : l = x.memory.next := of_decide_eq_true home
      rw [same, x.memory.cells_found_next p .log] at reads
      cases made : p.eventLog with
      | none => simp [Blueprint.content, made, EventLog.empty] at reads
      | some log =>
        have source : log.source = .fake c := by simpa [Blueprint.content, made] using reads
        rw [Plot.source_of_blueprint built made] at source
        exact decide_eq_true ((separate.ready side).clock c source)
    · exact decide_eq_true (given_reads (of_decide_eq_true given))
  at_home y found := by
    have found' : (x.memory.found p).cells .host x.memory.next = some y := found
    rw [x.memory.cells_found_next p .host] at found'
    cases found'
    exact ⟨rfl, rfl, fun _ none => by cases none⟩

/-- To build a host keeps all sound. -/
theorem of_found (separate : Separate plots s) (sound : Sound plots s x) {p : Blueprint V F H W}
    (built : (plots side).blueprint W mint x.memory.next = .ok p) :
    Sound plots s (x.settled side (plots side) p) where
  next_le := Nat.le_succ_of_le sound.next_le
  goods_eq {side' d} known := by
    rcases deeds_update known with ⟨rfl, rfl⟩ | ⟨other, known⟩
    · rfl
    · exact sound.goods_eq known
  home_made {side' d} known := by
    rcases deeds_update known with ⟨rfl, rfl⟩ | ⟨other, known⟩
    · exact sound.next_le
    · exact sound.home_made known
  home_lt {side' d} known := by
    rcases deeds_update known with ⟨rfl, rfl⟩ | ⟨other, known⟩
    · exact Nat.lt_succ_self _
    · exact Nat.lt_succ_of_lt (sound.home_lt known)
  homes_ne {side' d d'} known known' := by
    rcases deeds_update known with ⟨rfl, rfl⟩ | ⟨other, known⟩ <;>
      rcases deeds_update known' with ⟨same, rfl⟩ | ⟨other', known'⟩
    · exact absurd same side'.other_ne
    · exact (Nat.ne_of_lt (sound.home_lt known')).symm
    · exact Nat.ne_of_lt (sound.home_lt known)
    · exact sound.homes_ne known known'
  order {side' d} known := by
    rcases deeds_update known with ⟨rfl, rfl⟩ | ⟨other, known⟩
    · exact sound.order_found separate built
    · exact (sound.order known).of_agree (sound.agree_found separate known p)
  logs_read side' l given c reads := by
    refine sound.logs_read side' l given c ?_
    rw [← sound.log_found separate p given]
    exact reads

variable [BEq W] {habits : Habits E V F H ρ W}

/-- Every move keeps all sound. -/
theorem perform (loyal : habits.Loyal) (mint : Nat → BuiltIn → V) (separate : Separate plots s)
    (sound : Sound plots s x) (m : Move H W) : Sound plots s (m.perform habits mint plots x).2 := by
  cases m with
  | build side =>
    cases known : x.deeds side with
    | some d => simpa only [Move.perform, known] using sound
    | none =>
      cases built : (plots side).blueprint W mint x.memory.next with
      | error e => simpa only [Move.perform, known, built] using sound
      | ok p => simpa only [Move.perform, known, built] using sound.of_found separate built
  | act side op =>
    cases known : x.deeds side with
    | none => simpa only [Move.perform, known] using sound
    | some d =>
      simpa only [Move.perform, known] using sound.of_confined separate known (loyal.perform op)
  | pass side change =>
    cases known : x.deeds side with
    | none => simpa only [Move.perform, known] using sound
    | some d =>
      simpa only [Move.perform, known] using sound.of_confined separate known (d.confined_pass change)

theorem run (loyal : habits.Loyal) (mint : Nat → BuiltIn → V) (separate : Separate plots s)
    (moves : List (Move H W)) (sound : Sound plots s x) :
    Sound plots s (Move.run habits mint plots moves x).2 := by
  induction moves generalizing x with
  | nil => exact sound
  | cons m moves ih => exact ih (sound.perform loyal mint separate m)

end Sound

end HostBench
