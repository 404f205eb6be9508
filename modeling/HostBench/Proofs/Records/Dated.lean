/-
  Event logs that read one clock. A `Scribe` uses a clock and appends to any of the logs that read it,
  in whatever order, and so may everyone whom the clock wakes, in the middle of a move. An append reads
  the clock and leaves the record in one step, so as an `Errand` it is a look at the clock and what is
  done with the logs thereafter.

  One history is kept of all moves and all appends. What it says of the clock and of the logs holds
  after every step (`Scene.AsWritten`): each operation keeps it, a move does if those do whom it wakes
  (`asWritten_advance`), and so a run does however deep wakers are nested in it (`asWritten_run`,
  `abide_wakeUp`). That records carry the right times, and in the right order, is read off the
  history (`dated_in_order`).
-/
import HostBench.Proofs.Clock.Elapsed
import HostBench.Proofs.Records.Growth
import Mathlib.Logic.Function.Basic

namespace HostBench

variable {W : Type}

/-! ## Scribes -/

/-- What someone does with a clock and with logs that read it. Each step may depend on all that the
earlier ones have shown. -/
inductive Scribe (W : Type) where
  | done
  | look (next : FakeClock W → Scribe W)
  /-- Reads all that is in the logs. -/
  | consult (next : (Nat → EventLog) → Scribe W)
  | sleep (d : Duration) (next : SleepId → Scribe W)
  | poll (id : SleepId) (w : W) (next : Bool → Scribe W)
  | drop (id : SleepId) (next : Scribe W)
  | advance (delta : Duration) (next : Scribe W)
  | append (log : Nat) (stream kind : String) (payload : Payload)
    (next : Except LogError EventRecord → Scribe W)

/-- What a history has of a clock and of the logs that read it. -/
inductive Posting where
  /-- The clock is to move. -/
  | moved (delta : Duration)
  /-- Something was appended, or was to be, when the clock had moved so far. -/
  | appended (log : Nat) (payload : Payload) (elapsed : Duration)
    (result : Except LogError EventRecord)

/-- Logs by their numbers, and all that was done with them and with their clock, the oldest first. -/
structure Archive where
  logs : Nat → EventLog
  history : List Posting

namespace Archive

/-- Logs that are empty, all of one clock, with room for so many records. -/
def opening (clock : Nat) (capacity : Nat → Option Nat) : Archive :=
  ⟨fun log => .empty (.fake clock) (capacity log), []⟩

/-- A clock is to move. -/
def moving (a : Archive) (delta : Duration) : Archive :=
  { a with history := a.history ++ [.moved delta] }

/-- What an append comes to, and the log after it, when the clock is this one. -/
def outcome (a : Archive) (log : Nat) (stream kind : String) (payload : Payload) (c : FakeClock W) :
    Except LogError EventRecord × EventLog :=
  (a.logs log).settle ((a.logs log).appendPayload stream kind payload c.now?)

/-- Appends to a log. -/
def append (a : Archive) (log : Nat) (stream kind : String) (payload : Payload) (c : FakeClock W) :
    Archive where
  logs := Function.update a.logs log (a.outcome log stream kind payload c).2
  history := a.history ++
    [.appended log payload c.elapsed (a.outcome log stream kind payload c).1]

end Archive

/-- A scribe's errand: the logs lie around the clock, and an append reads the clock first. -/
def Scribe.errand : Scribe W → Errand Archive W
  | .done => .done
  | .look next => .read fun c => (next c).errand
  | .consult next => .act id fun a => (next a.logs).errand
  | .sleep d next => .sleep d fun id => (next id).errand
  | .poll id w next => .poll id w fun ready => (next ready).errand
  | .drop id next => .drop id next.errand
  | .advance delta next => .act (·.moving delta) fun _ => .advance delta next.errand
  | .append log stream kind payload next => .read fun c =>
    .act (·.append log stream kind payload c) fun a =>
      (next (a.outcome log stream kind payload c).1).errand

/-! ## What a history says -/

namespace Posting

/-- How far the clock is to move, in nanoseconds. -/
def nanos : Posting → Nat
  | .moved delta => delta.toNanos
  | .appended _ _ _ _ => 0

/-- The record that a log has from it. -/
def record? (log : Nat) : Posting → Option EventRecord
  | .appended log' _ _ (.ok r) => if log' = log then some r else none
  | _ => none

/-- How far the clock was to move in all, in nanoseconds. -/
def moves (history : List Posting) : Nat := (history.map nanos).sum

/-- The records that a log has, in the order in which they were appended. -/
def filed (log : Nat) (history : List Posting) : List EventRecord := history.filterMap (record? log)

/-- It holds of an append after a history that the clock had moved by the sum of all moves or as far as
it can, that the record has that time, and that just the payload and the room in the log have decided
whether it was taken. -/
def Holds (origin : Instant) (capacity : Nat → Option Nat) (history : List Posting) : Posting → Prop
  | .moved _ => True
  | .appended log payload elapsed result =>
    elapsed.toNanos = min (moves history) origin.headroom ∧
    (∀ r, result = .ok r →
      ∃ t, r.recordedAt = some t ∧ t.toNanos = origin.toNanos + elapsed.toNanos) ∧
    ((∃ r, result = .ok r) ↔ (∃ v, payload.toJson = .ok v) ∧
      EventLog.Room (capacity log) (filed log history).length) ∧
    (∀ e, result = .error e → payload.toJson = .error e ∨
      ∃ c, capacity log = some c ∧ c ≤ (filed log history).length ∧ e = .capacityExceeded c)

theorem moves_append (h h' : List Posting) : moves (h ++ h') = moves h + moves h' := by
  unfold moves
  rw [List.map_append, List.sum_append]

theorem filed_append (log : Nat) (h h' : List Posting) :
    filed log (h ++ h') = filed log h ++ filed log h' := List.filterMap_append

theorem filed_taken (log : Nat) (payload : Payload) (elapsed : Duration) (r : EventRecord) :
    filed log [.appended log payload elapsed (.ok r)] = [r] := by
  simp [filed, record?]

theorem filed_refused (log log' : Nat) (payload : Payload) (elapsed : Duration) (e : LogError) :
    filed log [.appended log' payload elapsed (.error e)] = [] := rfl

theorem filed_other {log log' : Nat} (other : log ≠ log') (payload : Payload) (elapsed : Duration)
    (result : Except LogError EventRecord) :
    filed log [.appended log' payload elapsed result] = [] := by
  cases result <;> simp [filed, record?, other.symm]

theorem moves_take_mono (history : List Posting) {i j : Nat} (le : i ≤ j) :
    moves (history.take i) ≤ moves (history.take j) := by
  obtain ⟨between, split⟩ := List.take_prefix_take_left (l := history) le
  rw [← split, moves_append]
  exact Nat.le_add_right _ _

/-- One posting more. -/
theorem holds_concat {origin : Instant} {capacity : Nat → Option Nat} {history : List Posting}
    (all : ∀ i posting, history[i]? = some posting → Holds origin capacity (history.take i) posting)
    {last : Posting} (holds : Holds origin capacity history last) (i : Nat) (posting : Posting)
    (found : (history ++ [last])[i]? = some posting) :
    Holds origin capacity ((history ++ [last]).take i) posting := by
  rcases Nat.lt_or_ge i history.length with inside | behind
  · rw [List.getElem?_append_left inside] at found
    rw [List.take_append_of_le_length (Nat.le_of_lt inside)]
    exact all i posting found
  · rw [List.getElem?_append_right behind] at found
    obtain ⟨at_end, rfl⟩ : i - history.length = 0 ∧ last = posting := by
      simpa [List.getElem?_singleton] using found
    rw [show i = history.length by omega, List.take_left]
    exact holds

end Posting

/-! ## One append -/

namespace EventLog

/-- What an append comes to, and the log after it: it is taken if the payload can be written and there
is room for it, and the record has the time that was given; else the log stays as it is. -/
inductive Settles (l : EventLog) (payload : Payload) (now : Option Instant) :
    Except LogError EventRecord × EventLog → Prop where
  | taken (r : EventRecord) (written : ∃ v, payload.toJson = .ok v) (room : Room l.capacity l.size)
    (recordedAt : r.recordedAt = now) :
    Settles l payload now (.ok r, { l with records := l.records ++ [r] })
  | unwritten (e : LogError) (reason : payload.toJson = .error e) :
    Settles l payload now (.error e, l)
  | full (c : Nat) (limit : l.capacity = some c) (reached : c ≤ l.size) :
    Settles l payload now (.error (.capacityExceeded c), l)

theorem settles (l : EventLog) (stream kind : String) (payload : Payload) (now : Option Instant) :
    Settles l payload now (l.settle (l.appendPayload stream kind payload now)) := by
  unfold appendPayload appendWritten
  cases written : payload.toJson with
  | error e => exact .unwritten e written
  | ok v =>
    by_cases room : Room l.capacity l.size
    · have took : l.append stream kind v now = .ok ({ l with records := l.records ++
          [l.nextRecord stream kind v now] }, l.nextRecord stream kind v now) :=
        append_eq_ok_iff.mpr ⟨room, rfl, rfl⟩
      rw [Except.bind, took]
      exact .taken _ ⟨v, written⟩ room rfl
    · obtain ⟨c, limit, reached⟩ := not_room_iff.mp room
      have refused : l.append stream kind v now = .error (.capacityExceeded c) := by
        simp [append, limit, Option.filter, reached]
      rw [Except.bind, refused]
      exact .full c limit reached

end EventLog

open Posting

/-- The log has just the records that a history says. -/
structure EventLog.Has (l : EventLog) (capacity : Nat → Option Nat) (log : Nat)
    (history : List Posting) : Prop where
  capacity_eq : l.capacity = capacity log
  records_eq : l.records = filed log history

section Append

variable {origin : Instant} {capacity : Nat → Option Nat} {history : List Posting} {l l' : EventLog}
  {log : Nat} {payload : Payload} {now : Option Instant} {result : Except LogError EventRecord}

theorem EventLog.Has.size_eq (has : l.Has capacity log history) :
    l.size = (filed log history).length := by
  rw [← has.records_eq]
  rfl

/-- What is appended is in the history, too. -/
theorem EventLog.Has.settles (has : l.Has capacity log history)
    (settles : l.Settles payload now (result, l')) (elapsed : Duration) :
    l'.Has capacity log (history ++ [.appended log payload elapsed result]) := by
  cases settles with
  | taken r => exact ⟨has.capacity_eq, by rw [filed_append, filed_taken, has.records_eq]⟩
  | unwritten e =>
    exact ⟨has.capacity_eq, by rw [filed_append, filed_refused, List.append_nil, has.records_eq]⟩
  | full c =>
    exact ⟨has.capacity_eq, by rw [filed_append, filed_refused, List.append_nil, has.records_eq]⟩

/-- What is appended to another log changes nothing. -/
theorem EventLog.Has.other (has : l.Has capacity log history) {log' : Nat} (other : log ≠ log')
    (payload : Payload) (elapsed : Duration) (result : Except LogError EventRecord) :
    l.Has capacity log (history ++ [.appended log' payload elapsed result]) :=
  ⟨has.capacity_eq, by rw [filed_append, filed_other other, List.append_nil, has.records_eq]⟩

/-- An append at the time that the clock shows. -/
theorem holds_appended (has : l.Has capacity log history)
    (settles : l.Settles payload now (result, l')) {elapsed : Duration}
    (elapsed_eq : elapsed.toNanos = min (moves history) origin.headroom)
    (shown : ∃ t, now = some t ∧ t.toNanos = origin.toNanos + elapsed.toNanos) :
    Holds origin capacity history (.appended log payload elapsed result) := by
  have size_eq := has.size_eq
  have limit_eq := has.capacity_eq
  refine ⟨elapsed_eq, ?_, ?_, ?_⟩
  · rintro r rfl
    cases settles with
    | taken r written room recordedAt =>
      rw [recordedAt]
      exact shown
  · rw [← size_eq, ← limit_eq]
    cases settles with
    | taken r written room => exact iff_of_true ⟨r, rfl⟩ ⟨written, room⟩
    | unwritten e reason =>
      refine iff_of_false (fun ⟨r, same⟩ => by cases same) fun ⟨⟨v, written⟩, _⟩ => ?_
      rw [reason] at written
      cases written
    | full c limit reached =>
      exact iff_of_false (fun ⟨r, same⟩ => by cases same)
        fun ⟨_, room⟩ => Nat.not_lt_of_le reached (room c limit)
  · rintro e rfl
    rw [← size_eq, ← limit_eq]
    cases settles with
    | unwritten e reason => exact .inl reason
    | full c limit reached => exact .inr ⟨c, limit, reached, rfl⟩

end Append

/-! ## Every step keeps to the history -/

namespace Scene

variable {origin : Instant} {capacity : Nat → Option Nat} {s s' : Scene Archive W}
  {wake : W → StateM (Scene Archive W) Unit}

/-- Clock and logs are what the history says, and it holds throughout. -/
structure AsWritten (origin : Instant) (capacity : Nat → Option Nat) (s : Scene Archive W) :
    Prop where
  origin_eq : s.clock.origin = origin
  elapsed_eq : s.clock.elapsed.toNanos = min (moves s.around.history) origin.headroom
  has : ∀ log, (s.around.logs log).Has capacity log s.around.history
  holds : ∀ i posting, s.around.history[i]? = some posting →
    Holds origin capacity (s.around.history.take i) posting

theorem asWritten_opening (origin : Instant) (clock : Nat) (capacity : Nat → Option Nat) :
    AsWritten origin capacity (opening origin (.opening clock capacity) : Scene Archive W) where
  origin_eq := rfl
  elapsed_eq := by
    show Duration.zero.toNanos = min (moves []) origin.headroom
    rw [Duration.toNanos_zero, show moves [] = 0 from List.sum_nil, Nat.zero_min]
  has _ := ⟨rfl, rfl⟩
  holds i posting found := by simp [opening, Archive.opening] at found

/-- A clock that shows the same time with the same logs around it. -/
theorem AsWritten.still (written : AsWritten origin capacity s) (around_eq : s'.around = s.around)
    (origin_eq : s'.clock.origin = s.clock.origin)
    (elapsed_eq : s'.clock.elapsed = s.clock.elapsed) :
    AsWritten origin capacity s' where
  origin_eq := origin_eq.trans written.origin_eq
  elapsed_eq := by rw [elapsed_eq, around_eq, written.elapsed_eq]
  has := by rw [around_eq]; exact written.has
  holds := by rw [around_eq]; exact written.holds

theorem AsWritten.noting (written : AsWritten origin capacity s) (x : Happening W) :
    AsWritten origin capacity (s.noting x) := written.still rfl rfl rfl

theorem AsWritten.reachable (written : AsWritten origin capacity s) : s.clock.Reachable := by
  unfold FakeClock.Reachable
  rw [written.origin_eq, written.elapsed_eq]
  exact Nat.min_le_right _ _

/-- The time that the clock shows. -/
theorem AsWritten.now (written : AsWritten origin capacity s) :
    ∃ t, s.clock.now? = some t ∧ t.toNanos = origin.toNanos + s.clock.elapsed.toNanos := by
  have shown := written.reachable.exists_now
  rwa [written.origin_eq] at shown

/-- An operation that moves nothing. -/
theorem AsWritten.did (written : AsWritten origin capacity s) (op : ClockOp W)
    (elapsed_eq : (op.change s.clock).elapsed = s.clock.elapsed) :
    AsWritten origin capacity { s.noting (.did op) with clock := op.change s.clock } :=
  written.still rfl (FakeClock.origin_change op s.clock) elapsed_eq

/-- An append is written down as it was. -/
theorem AsWritten.append (written : AsWritten origin capacity s) (log : Nat) (stream kind : String)
    (payload : Payload) :
    AsWritten origin capacity
      { s with around := s.around.append log stream kind payload s.clock } := by
  have settles := (s.around.logs log).settles stream kind payload s.clock.now?
  obtain ⟨result, l, outcome⟩ : ∃ result l,
      s.around.outcome log stream kind payload s.clock = (result, l) := ⟨_, _, rfl⟩
  have after : s.around.append log stream kind payload s.clock =
      ⟨Function.update s.around.logs log l,
        s.around.history ++ [.appended log payload s.clock.elapsed result]⟩ := by
    unfold Archive.append
    rw [outcome]
  rw [show (s.around.logs log).settle _ = _ from outcome] at settles
  rw [after]
  constructor
  case origin_eq => exact written.origin_eq
  case elapsed_eq =>
    rw [moves_append]
    exact written.elapsed_eq
  case has =>
    exact (Function.forall_update_iff _ fun k (l : EventLog) => l.Has capacity k _).mpr
      ⟨(written.has log).settles settles _, fun k other => (written.has k).other other _ _ _⟩
  case holds =>
    exact holds_concat written.holds
      (holds_appended (written.has log) settles written.elapsed_eq written.now)

/-- Those who are woken keep to the history. -/
def Abide (origin : Instant) (capacity : Nat → Option Nat)
    (wake : W → StateM (Scene Archive W) Unit) : Prop :=
  ∀ w s, AsWritten origin capacity s → AsWritten origin capacity (wake w s).2

theorem asWritten_forM (inner : Abide origin capacity wake) (ws : List W)
    (written : AsWritten origin capacity s) :
    AsWritten origin capacity ((ws.forM wake : StateM (Scene Archive W) PUnit) s).2 := by
  induction ws generalizing s with
  | nil => exact written
  | cons w ws ih => exact ih (inner w s written)

/-- **One move.** The clock has moved before the first of those runs whom it wakes. -/
theorem asWritten_advance (inner : Abide origin capacity wake)
    (written : AsWritten origin capacity s) (delta : Duration) :
    AsWritten origin capacity (move wake delta
      ({ s with around := s.around.moving delta }.noting (.did (.advance delta)))).2 := by
  have moved : moves (s.around.moving delta).history = moves s.around.history + delta.toNanos :=
    (moves_append _ _).trans (congrArg _ (Nat.add_zero _))
  have has : ∀ log, ((s.around.moving delta).logs log).Has capacity log
      (s.around.moving delta).history := fun log =>
    ⟨(written.has log).capacity_eq, by
      rw [Archive.moving, filed_append]
      exact (written.has log).records_eq.trans (List.append_nil _).symm⟩
  have elapsed_eq : (s.clock.advance delta).1.elapsed.toNanos =
      min (moves (s.around.moving delta).history) origin.headroom := by
    have after := FakeClock.toNanos_change written.reachable (.advance delta)
    have before := written.elapsed_eq
    rw [written.origin_eq] at after
    show (ClockOp.change (.advance delta) s.clock).elapsed.toNanos = _
    rw [after, moved, ClockOp.nanos]
    omega
  have alone : AsWritten origin capacity
      { s with clock := (s.clock.advance delta).1, around := s.around.moving delta } :=
    ⟨(FakeClock.origin_advance _ _).trans written.origin_eq, elapsed_eq, has,
      holds_concat written.holds trivial⟩
  cases still : delta.isZero with
  | true =>
    rw [Duration.isZero_iff.mp still] at alone ⊢
    exact alone.noting _
  | false =>
    rw [move_of_moves wake still]
    exact asWritten_forM inner _ (alone.still rfl rfl rfl)

theorem asWritten_run (inner : Abide origin capacity wake) (scribe : Scribe W)
    (written : AsWritten origin capacity s) : AsWritten origin capacity (scribe.errand.run wake s).2 := by
  induction scribe generalizing s with
  | done => exact written
  | look next ih => exact ih s.clock (written.noting .read)
  | consult next ih => exact ih s.around.logs written
  | sleep d next ih => exact ih _ (written.did (.sleep d) rfl)
  | poll id w next ih => exact ih _ (written.did (.poll id w) (FakeClock.elapsed_poll _ id w))
  | drop id next ih => exact ih (written.did (.drop id) (FakeClock.elapsed_cancel _ id))
  | advance delta next ih => exact ih (asWritten_advance inner written delta)
  | append log stream kind payload next ih =>
    exact ih _ ((written.noting .read).append log stream kind payload)

theorem abide_wakeUp (play : W → Scribe W) (room depth : Nat) :
    Abide origin capacity (wakeUp (fun w => (play w).errand) room depth) := by
  induction room generalizing depth with
  | zero => exact fun w s written => written.still rfl rfl rfl
  | succ room ih =>
    intro w s written
    exact (asWritten_run (ih (depth + 1)) (play w) (written.noting (.began depth w))).noting
      (.ended depth w)

end Scene

/-! ## What the records say -/

/-- What is to be said of logs of a clock that began at `origin`, with `cap` for how far such a clock
ever gets. -/
structure Dated (W : Type) (origin : Instant) (capacity : Nat → Option Nat) (a : Archive) : Prop where
  /-- This is as far as a clock can get, in nanoseconds. -/
  cap : IsGreatest {n | ∃ ops : List (ClockOp W),
    ((FakeClock.withOrigin origin).inSequence ops).elapsed.toNanos = n} origin.headroom
  /-- A log has what was appended to it, in this order. -/
  kept : ∀ log, (a.logs log).records = filed log a.history
  /-- At an append the clock has moved by the sum of all its moves until then, or as far as it can, and
  the record has just that time. -/
  dated : ∀ (i log : Nat) (payload : Payload) (elapsed : Duration) (r : EventRecord),
    a.history[i]? = some (.appended log payload elapsed (.ok r)) →
    elapsed.toNanos = min (moves (a.history.take i)) origin.headroom ∧
    ∃ t, r.recordedAt = some t ∧ t.toNanos = origin.toNanos + elapsed.toNanos
  /-- A record that was appended later, to whichever log, has no earlier time, and between the two are
  the moves between them, as far as the clock could make them. -/
  across : ∀ (i j log log' : Nat) (payload payload' : Payload) (elapsed elapsed' : Duration)
    (r r' : EventRecord), i ≤ j →
    a.history[i]? = some (.appended log payload elapsed (.ok r)) →
    a.history[j]? = some (.appended log' payload' elapsed' (.ok r')) →
    ∃ t u, r.recordedAt = some t ∧ r'.recordedAt = some u ∧ t.toNanos ≤ u.toNanos ∧
      (u.since t).toNanos = min (moves (a.history.take j)) origin.headroom -
        min (moves (a.history.take i)) origin.headroom
  /-- So times never go back within a log. -/
  within : ∀ log, (a.logs log).records.Pairwise fun r r' =>
    ∃ t u, r.recordedAt = some t ∧ r'.recordedAt = some u ∧ t.toNanos ≤ u.toNanos
  /-- An append is taken just if the payload can be written and there is room for it, -/
  taken : ∀ (i log : Nat) (payload : Payload) (elapsed : Duration)
    (result : Except LogError EventRecord),
    a.history[i]? = some (.appended log payload elapsed result) →
    ((∃ r, result = .ok r) ↔ (∃ v, payload.toJson = .ok v) ∧
      EventLog.Room (capacity log) (filed log (a.history.take i)).length)
  /-- and refused because of one of these, never because of the clock. -/
  refused : ∀ (i log : Nat) (payload : Payload) (elapsed : Duration) (e : LogError),
    a.history[i]? = some (.appended log payload elapsed (.error e)) →
    payload.toJson = .error e ∨ ∃ c, capacity log = some c ∧
      c ≤ (filed log (a.history.take i)).length ∧ e = .capacityExceeded c

theorem Instant.isGreatest_inSequence (W : Type) (origin : Instant) :
    IsGreatest {n | ∃ ops : List (ClockOp W),
      ((FakeClock.withOrigin origin).inSequence ops).elapsed.toNanos = n} origin.headroom := by
  have reached := FakeClock.toNanos_inSequence (W := W) (FakeClock.reachable_withOrigin origin)
  have zero : (FakeClock.withOrigin origin : FakeClock W).elapsed.toNanos = 0 := Duration.toNanos_zero
  constructor
  · refine ⟨[.advance .max], ?_⟩
    have longest := origin.headroom_le_max
    have total : totalNanos [(ClockOp.advance .max : ClockOp W)] = Duration.max.toNanos := by
      simp [totalNanos, ClockOp.nanos]
    rw [reached, zero, total, Nat.zero_add]
    exact Nat.min_eq_right longest
  · rintro n ⟨ops, rfl⟩
    rw [reached]
    exact Nat.min_le_right _ _

theorem record?_eq_some {log : Nat} {posting : Posting} {r : EventRecord}
    (h : posting.record? log = some r) : ∃ payload elapsed, posting = .appended log payload elapsed (.ok r) := by
  cases posting with
  | moved delta => cases h
  | appended log' payload elapsed result =>
    cases result with
    | error e => cases h
    | ok r' =>
      obtain ⟨rfl, rfl⟩ : log' = log ∧ r' = r := by simpa [record?] using h
      exact ⟨payload, elapsed, rfl⟩

/-- **Times that never go back.** Whatever is appended to logs of one clock, in between its moves and
in the middle of them, by those whom it wakes: each record has the time at which it was appended, and
the times are ordered as the records are. -/
theorem dated_in_order (origin : Instant) (clock : Nat) (capacity : Nat → Option Nat)
    (play : W → Scribe W) (room : Nat) (client : Scribe W) :
    Dated W origin capacity (client.errand.run (wakeUp (fun w => (play w).errand) room 0)
      (Scene.opening origin (.opening clock capacity))).2.around := by
  have written := Scene.asWritten_run (Scene.abide_wakeUp play room 0) client
    (Scene.asWritten_opening origin clock capacity)
  generalize (client.errand.run (wakeUp (fun w => (play w).errand) room 0)
    (Scene.opening origin (.opening clock capacity))).2 = s at written
  have across : ∀ (i j log log' : Nat) (payload payload' : Payload) (elapsed elapsed' : Duration)
      (r r' : EventRecord), i ≤ j →
      s.around.history[i]? = some (.appended log payload elapsed (.ok r)) →
      s.around.history[j]? = some (.appended log' payload' elapsed' (.ok r')) →
      ∃ t u, r.recordedAt = some t ∧ r'.recordedAt = some u ∧ t.toNanos ≤ u.toNanos ∧
        (u.since t).toNanos = min (moves (s.around.history.take j)) origin.headroom -
          min (moves (s.around.history.take i)) origin.headroom := by
    intro i j log log' payload payload' elapsed elapsed' r r' le first second
    obtain ⟨elapsed_eq, time, -⟩ := written.holds i _ first
    obtain ⟨elapsed_eq', time', -⟩ := written.holds j _ second
    obtain ⟨t, at_first, t_eq⟩ := time r rfl
    obtain ⟨u, at_second, u_eq⟩ := time' r' rfl
    have more := moves_take_mono s.around.history le
    have longest := origin.headroom_le_max
    refine ⟨t, u, at_first, at_second, by omega, ?_⟩
    rw [Instant.since, Duration.toNanos_ofNanos]
    omega
  constructor
  case cap => exact origin.isGreatest_inSequence W
  case kept => exact fun log => (written.has log).records_eq
  case dated =>
    intro i log payload elapsed r found
    obtain ⟨elapsed_eq, time, -⟩ := written.holds i _ found
    exact ⟨elapsed_eq, time r rfl⟩
  case across => exact across
  case within =>
    intro log
    rw [(written.has log).records_eq, filed, List.pairwise_filterMap, List.pairwise_iff_getElem]
    intro i j hi hj lt r first r' second
    obtain ⟨payload, elapsed, posting⟩ := record?_eq_some first
    obtain ⟨payload', elapsed', posting'⟩ := record?_eq_some second
    obtain ⟨t, u, at_first, at_second, le, -⟩ := across i j log log payload payload' elapsed elapsed'
      r r' (Nat.le_of_lt lt) (by rw [List.getElem?_eq_getElem hi, posting])
      (by rw [List.getElem?_eq_getElem hj, posting'])
    exact ⟨t, u, at_first, at_second, le⟩
  case taken => exact fun i log payload elapsed result found => (written.holds i _ found).2.2.1
  case refused => exact fun i log payload elapsed e found => (written.holds i _ found).2.2.2 e rfl

end HostBench
