/-
  An event log over whole histories. A history is any list of appends, appends of a payload that
  has to be written as JSON first, and reads, in any order and on any streams.

  What a log holds is said from the other end, too: the calls bring notices, and the log holds as
  many of the first of them as there is room for, each with its position as its number (`logOf`).
  One call keeps a log of that form (`answer_logOf`), so a history does (`run_logOf`), and what
  holds throughout a history is read off there (`append_only_within_capacity`).
-/
import HostBench.EventLog
import Mathlib.Data.List.Basic

namespace HostBench

/-! ## Histories of calls -/

/-- What a log is asked. Of a payload that has to be written as JSON first, the call has what the
writing comes to: JSON, or the reason why there is none. -/
inductive LogCall where
  | append (stream kind : String) (payload : Json) (now : Option Instant)
  | appendJson (stream kind : String) (written : Except String Json) (now : Option Instant)
  | readAll
  | readStream (stream : String) (first : Nat)
  | size

/-- What a log answers. -/
inductive LogAnswer where
  | appended (result : Except LogError EventRecord)
  | records (rs : List EventRecord)
  | size (n : Nat)

namespace EventLog

/-- What an append answers, and the log after it: a refused append leaves the log as it is. -/
def settle (l : EventLog) :
    Except LogError (EventLog × EventRecord) → Except LogError EventRecord × EventLog
  | .ok (l', r) => (.ok r, l')
  | .error e => (.error e, l)

/-- Answers a call. -/
def answer (l : EventLog) : LogCall → LogAnswer × EventLog
  | .append stream kind payload now =>
    (l.settle (l.append stream kind payload now)).map .appended id
  | .appendJson stream kind written now =>
    (l.settle (l.appendWritten stream kind (written.mapError .codec) now)).map .appended id
  | .readAll => (.records l.records, l)
  | .readStream stream first => (.records (l.readStream stream first), l)
  | .size => (.size l.size, l)

/-- Answers calls, one after the other. -/
def run (l : EventLog) : List LogCall → List LogAnswer × EventLog
  | [] => ([], l)
  | c :: rest => (((l.answer c).2.run rest).1.cons (l.answer c).1, ((l.answer c).2.run rest).2)

/-- The log that was empty before some calls. -/
def after (source : TimeSource) (capacity : Option Nat) (calls : List LogCall) : EventLog :=
  ((empty source capacity).run calls).2

/-- What a payload is written to is JSON or the reason of a codec error: appending it is a call. -/
theorem appendPayload_eq (l : EventLog) (stream kind : String) (payload : Payload)
    (now : Option Instant) : ∃ written : Except String Json,
      l.appendPayload stream kind payload now =
        l.appendWritten stream kind (written.mapError .codec) now := by
  cases payload with
  | json v => exact ⟨.ok v, rfl⟩
  | shaped s v => exact ⟨.ok (s.write v), rfl⟩
  | notANumber => exact ⟨.ok .null, rfl⟩
  | badKey => exact ⟨.error "key must be a string", rfl⟩

/-- A call is answered by the log that the calls before it have left. -/
theorem getElem?_run (l : EventLog) (calls : List LogCall) (i : Nat) :
    (l.run calls).1[i]? = calls[i]?.map fun c => ((l.run (calls.take i)).2.answer c).1 := by
  induction calls generalizing l i with
  | nil => rfl
  | cons c rest ih =>
    cases i with
    | zero => rfl
    | succ i => simpa [run] using ih (l.answer c).2 i

/-! ## What the calls have brought -/

/-- What is to be recorded, without a number. -/
structure Notice where
  stream : String
  kind : String
  payload : Json
  now : Option Instant

/-- The record of a notice under a number. -/
def Notice.record (n : Notice) (sequence : Nat) : EventRecord :=
  ⟨sequence, n.stream, n.kind, n.payload, n.now⟩

/-- What a call brings: nothing if it reads, nor if its payload cannot be written. -/
def notice? : LogCall → Option Notice
  | .append stream kind payload now => some ⟨stream, kind, payload, now⟩
  | .appendJson stream kind (.ok payload) now => some ⟨stream, kind, payload, now⟩
  | _ => none

/-- The first notices, as many as there is room for. -/
def within : Option Nat → List Notice → List Notice
  | none, ns => ns
  | some capacity, ns => ns.take capacity

/-- Whether there is room for one more after `n` records. -/
def Room (capacity : Option Nat) (n : Nat) : Prop := ∀ c, capacity = some c → n < c

theorem not_room_iff {capacity : Option Nat} {n : Nat} :
    ¬ Room capacity n ↔ ∃ c, capacity = some c ∧ c ≤ n := by
  simp [Room]

theorem room_iff {capacity : Option Nat} {n : Nat} :
    Room capacity n ↔ (capacity = none ∨ ∃ c, capacity = some c ∧ n < c) := by
  cases capacity <;> simp [Room]

/-- The log to which notices have been brought, all of them and in this order. -/
def logOf (source : TimeSource) (capacity : Option Nat) (ns : List Notice) : EventLog :=
  ⟨source, capacity, (within capacity ns).mapIdx fun i n => n.record i⟩

section Contents

variable {source : TimeSource} {capacity : Option Nat}

@[simp] theorem size_logOf (ns : List Notice) :
    (logOf source capacity ns).size = (within capacity ns).length := by
  simp [size, logOf]

theorem length_within_le (ns : List Notice) {c : Nat} (limit : capacity = some c) :
    (within capacity ns).length ≤ c := by
  subst limit
  simp only [within, List.length_take]
  omega

/-- A notice for which there is room is added at the end. -/
theorem within_concat_of_room {ns : List Notice} (n : Notice)
    (room : Room capacity (within capacity ns).length) :
    within capacity (ns ++ [n]) = within capacity ns ++ [n] := by
  cases capacity with
  | none => rfl
  | some c =>
    have short : ns.length < c := by
      have h := room c rfl
      simp only [within, List.length_take] at h
      omega
    have all : ns.take c = ns := List.take_of_length_le (by omega)
    simp only [within, all]
    exact List.take_of_length_le (by simp only [List.length_append, List.length_singleton]; omega)

/-- A notice for which there is no room changes nothing. -/
theorem within_concat_of_full {ns : List Notice} (n : Notice)
    (full : ¬ Room capacity (within capacity ns).length) :
    within capacity (ns ++ [n]) = within capacity ns := by
  obtain ⟨c, rfl, full⟩ := not_room_iff.mp full
  simp only [within, List.length_take] at full ⊢
  exact List.take_append_of_le_length (by omega)

/-- More notices change nothing about the first. -/
theorem within_prefix (ns more : List Notice) :
    within capacity ns <+: within capacity (ns ++ more) := by
  cases capacity with
  | none => exact List.prefix_append ns more
  | some c =>
    simp only [within, List.take_append]
    exact List.prefix_append _ _

theorem records_logOf_prefix (ns more : List Notice) :
    (logOf source capacity ns).records <+: (logOf source capacity (ns ++ more)).records := by
  obtain ⟨rest, added⟩ : within capacity ns <+: within capacity (ns ++ more) :=
    within_prefix ns more
  refine ⟨rest.mapIdx fun i n => n.record (i + (within capacity ns).length), ?_⟩
  simp only [logOf, ← added, List.mapIdx_append]

/-! ## One call -/

/-- The record that comes next is that of the next notice, under the number of those before. -/
theorem logOf_concat_of_room {ns : List Notice} (n : Notice)
    (room : Room capacity (logOf source capacity ns).size) :
    logOf source capacity (ns ++ [n]) =
      { logOf source capacity ns with
        records := (logOf source capacity ns).records ++
          [n.record (logOf source capacity ns).size] } := by
  rw [size_logOf] at room ⊢
  simp only [logOf, within_concat_of_room n room, List.mapIdx_concat]

theorem logOf_concat_of_full {ns : List Notice} (n : Notice)
    (full : ¬ Room capacity (logOf source capacity ns).size) :
    logOf source capacity (ns ++ [n]) = logOf source capacity ns := by
  rw [size_logOf] at full
  simp only [logOf, within_concat_of_full n full]

end Contents

/-- With room, an append adds the next record and gives it. -/
theorem answer_of_room {l : EventLog} (n : Notice) (room : Room l.capacity l.size) :
    l.answer (.append n.stream n.kind n.payload n.now) =
      (.appended (.ok (n.record l.size)),
        { l with records := l.records ++ [n.record l.size] }) := by
  have took : l.append n.stream n.kind n.payload n.now =
      .ok ({ l with records := l.records ++ [n.record l.size] }, n.record l.size) :=
    append_eq_ok_iff.mpr ⟨room, rfl, rfl⟩
  simp only [answer, took, settle, Prod.map, id]

/-- Without room, an append is refused with the capacity. -/
theorem answer_of_full {l : EventLog} {c : Nat} (n : Notice) (limit : l.capacity = some c)
    (full : c ≤ l.size) :
    l.answer (.append n.stream n.kind n.payload n.now) =
      (.appended (.error (.capacityExceeded c)), l) := by
  simp [answer, append, limit, Option.filter, full, settle]

/-- An append to a log to which notices have been brought brings one more. -/
theorem answer_append_logOf (source : TimeSource) (capacity : Option Nat) (ns : List Notice)
    (n : Notice) :
    ((logOf source capacity ns).answer (.append n.stream n.kind n.payload n.now)).2 =
      logOf source capacity (ns ++ [n]) := by
  by_cases room : Room capacity (logOf source capacity ns).size
  · rw [answer_of_room n room, logOf_concat_of_room n room]
  · obtain ⟨c, limit, full⟩ := not_room_iff.mp room
    rw [answer_of_full n limit full, logOf_concat_of_full n room]

/-- **One call.** A log to which notices have been brought is, after a call, the log to which that
of the call has been brought as well. -/
theorem answer_logOf (source : TimeSource) (capacity : Option Nat) (ns : List Notice)
    (call : LogCall) :
    ((logOf source capacity ns).answer call).2 =
      logOf source capacity (ns ++ (notice? call).toList) := by
  cases call with
  | append stream kind payload now =>
    exact answer_append_logOf source capacity ns ⟨stream, kind, payload, now⟩
  | appendJson stream kind written now =>
    cases written with
    | ok payload => exact answer_append_logOf source capacity ns ⟨stream, kind, payload, now⟩
    | error reason => simp [answer, appendWritten, Except.mapError, Except.bind, settle, notice?]
  | readAll => simp [answer, notice?]
  | readStream stream first => simp [answer, notice?]
  | size => simp [answer, notice?]

/-! ## Whole histories -/

/-- **All calls.** The log that was empty before them is the one to which their notices have been
brought. -/
theorem run_logOf (source : TimeSource) (capacity : Option Nat) (ns : List Notice)
    (calls : List LogCall) :
    ((logOf source capacity ns).run calls).2 =
      logOf source capacity (ns ++ calls.filterMap notice?) := by
  induction calls generalizing ns with
  | nil => simp [run]
  | cons c rest ih =>
    have brought : (c :: rest).filterMap notice? = (notice? c).toList ++ rest.filterMap notice? := by
      cases h : notice? c <;> simp [h]
    rw [run, answer_logOf, ih, brought, List.append_assoc]

theorem after_eq (source : TimeSource) (capacity : Option Nat) (calls : List LogCall) :
    after source capacity calls = logOf source capacity (calls.filterMap notice?) := by
  have start : empty source capacity = logOf source capacity [] := by
    cases capacity <;> simp [empty, logOf, within]
  simpa only [after, start, List.nil_append] using run_logOf source capacity [] calls

/-- The log that some calls have left is called again. -/
theorem run_after (source : TimeSource) (capacity : Option Nat) (calls more : List LogCall) :
    ((after source capacity calls).run more).2 = after source capacity (calls ++ more) := by
  rw [after_eq source capacity calls, run_logOf, after_eq, List.filterMap_append]

/-- Later calls leave the records there are as they are. -/
theorem records_after_prefix (source : TimeSource) (capacity : Option Nat)
    (calls more : List LogCall) :
    (after source capacity calls).records <+: (after source capacity (calls ++ more)).records := by
  simp only [after_eq, List.filterMap_append]
  exact records_logOf_prefix _ _

theorem records_take_prefix (source : TimeSource) (capacity : Option Nat) (calls : List LogCall)
    {i j : Nat} (le : i ≤ j) :
    (after source capacity (calls.take i)).records <+:
      (after source capacity (calls.take j)).records := by
  obtain ⟨between, split⟩ : calls.take i <+: calls.take j := List.take_prefix_take_left le
  rw [← split]
  exact records_after_prefix source capacity _ _

/-- A read shows at a later position what it has shown at an earlier one, and maybe more. -/
theorem read_prefix (source : TimeSource) (capacity : Option Nat) (calls : List LogCall)
    {read : LogCall} {i j : Nat} (le : i ≤ j) {earlier later : List EventRecord}
    (first : ((after source capacity (calls.take i)).answer read).1 = .records earlier)
    (second : ((after source capacity (calls.take j)).answer read).1 = .records later) :
    earlier <+: later := by
  have grown := records_take_prefix source capacity calls le
  cases read with
  | readAll =>
    simp only [answer, LogAnswer.records.injEq] at first second
    rwa [← first, ← second]
  | readStream stream from_ =>
    simp only [answer, LogAnswer.records.injEq] at first second
    rw [← first, ← second]
    exact grown.filter _
  | append stream kind payload now => simp [answer, Prod.map] at first
  | appendJson stream kind written now => simp [answer, Prod.map] at first
  | size => simp [answer] at first

/-- What holds of the log that was empty before some calls, in between and in what follows. -/
structure AppendOnly (source : TimeSource) (capacity : Option Nat) (calls : List LogCall) : Prop where
  /-- The records are those of the first notices, as many as there is room for. -/
  contents : (after source capacity calls).records =
    (within capacity (calls.filterMap notice?)).mapIdx fun i n => n.record i
  /-- The number of a record is its position. -/
  sequence : ∀ (i : Nat) (r : EventRecord),
    (after source capacity calls).records[i]? = some r → r.sequence = i
  /-- There are never more records than there is room for. -/
  fits : ∀ c, capacity = some c → (after source capacity calls).size ≤ c
  /-- Whatever is called later, the records there are stay the first, and as they are. -/
  onward : ∀ more, (after source capacity calls).records <+:
    (after source capacity (calls ++ more)).records
  /-- What a read of the log or of a stream has shown is the beginning of what the same read shows
  later. -/
  reread : ∀ (read : LogCall) (i j : Nat) (earlier later : List EventRecord), i ≤ j →
    calls[i]? = some read → calls[j]? = some read →
    ((empty source capacity).run calls).1[i]? = some (.records earlier) →
    ((empty source capacity).run calls).1[j]? = some (.records later) → earlier <+: later
  /-- An append is taken exactly if there is no capacity or there are fewer records than it. -/
  taken_iff : ∀ n : Notice,
    (∃ r, ((after source capacity calls).answer (.append n.stream n.kind n.payload n.now)).1 =
      .appended (.ok r)) ↔
    (capacity = none ∨ ∃ c, capacity = some c ∧ (after source capacity calls).size < c)
  /-- An append that is taken gives its own record under the next number, and what is read then is
  what was there and this record last. -/
  taken : ∀ (n : Notice) (r : EventRecord) (l : EventLog),
    (after source capacity calls).answer (.append n.stream n.kind n.payload n.now) =
      (.appended (.ok r), l) →
    r = n.record (after source capacity calls).size ∧
      (l.answer .readAll).1 = .records ((after source capacity calls).records ++ [r])
  /-- An append for which there is no room is refused with the capacity and leaves the log as it
  is. -/
  full : ∀ (c : Nat) (n : Notice), capacity = some c → c ≤ (after source capacity calls).size →
    (after source capacity calls).answer (.append n.stream n.kind n.payload n.now) =
      (.appended (.error (.capacityExceeded c)), after source capacity calls)
  /-- A payload that can be written is appended. -/
  written : ∀ n : Notice,
    (after source capacity calls).answer (.appendJson n.stream n.kind (.ok n.payload) n.now) =
      (after source capacity calls).answer (.append n.stream n.kind n.payload n.now)
  /-- A payload that cannot be written is refused with the reason, whether there is room or not,
  and leaves the log as it is. -/
  unwritten : ∀ (stream kind reason : String) (now : Option Instant),
    (after source capacity calls).answer (.appendJson stream kind (.error reason) now) =
      (.appended (.error (.codec reason)), after source capacity calls)

/-- **An event log over any history.** Whatever the capacity is, and whatever is called: the log
grows at its end only, numbers its records by their positions, holds no more than it may, takes an
append exactly if there is room, and is left as it is by what it refuses. -/
theorem append_only_within_capacity (source : TimeSource) (capacity : Option Nat) (calls : List LogCall) :
    AppendOnly source capacity calls := by
  have form := after_eq source capacity calls
  have limit : (after source capacity calls).capacity = capacity := by
    rw [form]
    rfl
  refine ⟨by rw [form]; rfl, ?_, ?_, records_after_prefix source capacity calls, ?_, ?_, ?_,
    fun c n atMost => answer_of_full n (limit.trans atMost), fun n => rfl,
    fun stream kind reason now => rfl⟩
  · intro i r found
    rw [form] at found
    simp only [logOf, List.getElem?_mapIdx, Option.map_eq_some_iff] at found
    obtain ⟨n, -, rfl⟩ := found
    rfl
  · intro c atMost
    rw [form, size_logOf]
    exact length_within_le _ atMost
  · intro read i j earlier later le calledFirst calledAgain first second
    rw [getElem?_run, calledFirst, Option.map_some, Option.some.injEq] at first
    rw [getElem?_run, calledAgain, Option.map_some, Option.some.injEq] at second
    exact read_prefix source capacity calls le first second
  · intro n
    rw [← room_iff]
    constructor
    · rintro ⟨r, took⟩
      by_contra noRoom
      obtain ⟨c, atMost, full⟩ := not_room_iff.mp noRoom
      rw [answer_of_full n (limit.trans atMost) full] at took
      simp at took
    · intro room
      have left : Room (after source capacity calls).capacity (after source capacity calls).size :=
        fun c atMost => room c (limit ▸ atMost)
      exact ⟨_, by rw [answer_of_room n left]⟩
  · intro n r l took
    by_cases room : Room (after source capacity calls).capacity (after source capacity calls).size
    · rw [answer_of_room n room, Prod.mk.injEq, LogAnswer.appended.injEq, Except.ok.injEq] at took
      obtain ⟨rfl, rfl⟩ := took
      exact ⟨rfl, rfl⟩
    · obtain ⟨c, atMost, full⟩ := not_room_iff.mp room
      rw [answer_of_full n atMost full] at took
      simp at took

/-- Room for one record: the second append is refused, and so is what cannot be written. -/
example (now : Option Instant) :
    ((empty .system (some 1)).run [.append "a" "begun" .null now, .append "b" "begun" .null now,
      .appendJson "b" "done" (.error "no JSON") now, .readAll]).1 =
      [.appended (.ok ⟨0, "a", "begun", .null, now⟩), .appended (.error (.capacityExceeded 1)),
        .appended (.error (.codec "no JSON")), .records [⟨0, "a", "begun", .null, now⟩]] := rfl

end EventLog

end HostBench
