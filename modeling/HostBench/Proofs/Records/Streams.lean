/-
  The streams of an event log. Records are numbered over the whole log, and a read of a stream is
  asked for by such a number.

  * The number of a record is its position (`Numbered`), whatever has been called. So the records
    ascend, a number has one record, and what is added later has the numbers from the size on.
  * The streams are the parts of the log: the reads of all of them, merged by number, are the
    records (`merged_eq`).
  * A number works as a place to go on from: a read of the log as it has become is the read of the
    log as it was and what has been added (`readStream_onward`), and one that goes on behind the
    last record seen is what has been added (`readStream_since`). A reader that goes on like this
    has always seen the whole stream (`CaughtUp`, `caughtUp_follow`).
-/
import HostBench.Proofs.Records.Growth
import Mathlib.Data.List.Sort

namespace HostBench

namespace EventLog

/-! ## Numbers and positions -/

/-- The number of a record is its position. -/
def Numbered (l : EventLog) : Prop :=
  ∀ (i : Nat) (r : EventRecord), l.records[i]? = some r → r.sequence = i

theorem numbered_after (source : TimeSource) (capacity : Option Nat) (calls : List LogCall) :
    Numbered (after source capacity calls) := by
  intro i r found
  rw [after_eq] at found
  simp only [logOf, List.getElem?_mapIdx, Option.map_eq_some_iff] at found
  obtain ⟨n, -, rfl⟩ := found
  rfl

namespace Numbered

variable {l : EventLog}

theorem ascending (numbered : Numbered l) :
    l.records.Pairwise fun a b => a.sequence < b.sequence := by
  rw [List.pairwise_iff_getElem]
  intro i j hi hj lt
  have first : l.records[i].sequence = i := numbered i _ (List.getElem?_eq_getElem hi)
  have second : l.records[j].sequence = j := numbered j _ (List.getElem?_eq_getElem hj)
  omega

/-- A number has one record. -/
theorem eq_of_sequence_eq (numbered : Numbered l) {a b : EventRecord} (ha : a ∈ l.records)
    (hb : b ∈ l.records) (same : a.sequence = b.sequence) : a = b := by
  obtain ⟨i, foundA⟩ := List.mem_iff_getElem?.mp ha
  obtain ⟨j, foundB⟩ := List.mem_iff_getElem?.mp hb
  have samePlace : i = j := by
    rw [← numbered i a foundA, ← numbered j b foundB, same]
  subst samePlace
  exact Option.some.inj (foundA.symm.trans foundB)

theorem sequence_lt_size (numbered : Numbered l) {r : EventRecord} (hr : r ∈ l.records) :
    r.sequence < l.size := by
  obtain ⟨i, found⟩ := List.mem_iff_getElem?.mp hr
  rw [numbered i r found]
  exact (List.getElem?_eq_some_iff.mp found).1

/-- What stands behind the first records has the numbers behind theirs. -/
theorem le_sequence_of_mem_drop (numbered : Numbered l) {n : Nat} {r : EventRecord}
    (hr : r ∈ l.records.drop n) : n ≤ r.sequence := by
  obtain ⟨i, found⟩ := List.mem_iff_getElem?.mp hr
  rw [List.getElem?_drop] at found
  rw [numbered _ r found]
  exact Nat.le_add_right n i

end Numbered

/-! ## One read of a stream -/

theorem mem_readStream {l : EventLog} {stream : String} {first : Nat} {r : EventRecord} :
    r ∈ l.readStream stream first ↔ r ∈ l.records ∧ r.stream = stream ∧ first ≤ r.sequence := by
  simp [readStream]

theorem readStream_sublist (l : EventLog) (stream : String) (first : Nat) :
    (l.readStream stream first).Sublist l.records := List.filter_sublist

theorem Numbered.readStream_ascending {l : EventLog} (numbered : Numbered l) (stream : String)
    (first : Nat) : (l.readStream stream first).Pairwise fun a b => a.sequence < b.sequence :=
  numbered.ascending.sublist (l.readStream_sublist stream first)

/-- Ascending records are given by which they are. -/
theorem eq_of_ascending {xs ys : List EventRecord}
    (hxs : xs.Pairwise fun a b => a.sequence < b.sequence)
    (hys : ys.Pairwise fun a b => a.sequence < b.sequence) (same : ∀ r, r ∈ xs ↔ r ∈ ys) :
    xs = ys := by
  have irrefl : Std.Irrefl fun a b : EventRecord => a.sequence < b.sequence :=
    ⟨fun a => Nat.lt_irrefl a.sequence⟩
  have antisymm : Std.Antisymm fun a b : EventRecord => a.sequence < b.sequence :=
    ⟨fun a b ab ba => absurd ab (Nat.lt_asymm ba)⟩
  exact hxs.eq_of_mem_iff hys same

/-- A stream up to a number and from there on. -/
theorem Numbered.readStream_split {l : EventLog} (numbered : Numbered l) (stream : String)
    (first : Nat) : l.readStream stream 0 =
      (l.readStream stream 0).filter (·.sequence < first) ++ l.readStream stream first := by
  refine eq_of_ascending (numbered.readStream_ascending stream 0) ?_ fun r => ?_
  · refine List.pairwise_append.mpr
      ⟨(numbered.readStream_ascending stream 0).filter _, numbered.readStream_ascending stream first,
        fun a ha b hb => ?_⟩
    have below : a.sequence < first := by simpa using (List.mem_filter.mp ha).2
    exact Nat.lt_of_lt_of_le below (mem_readStream.mp hb).2.2
  · simp only [List.mem_append, List.mem_filter, mem_readStream, decide_eq_true_eq]
    constructor
    · rintro ⟨there, onStream, -⟩
      rcases Nat.lt_or_ge r.sequence first with below | above
      · exact .inl ⟨⟨there, onStream, Nat.zero_le _⟩, below⟩
      · exact .inr ⟨there, onStream, above⟩
    · rintro (⟨h, -⟩ | ⟨there, onStream, -⟩)
      · exact h
      · exact ⟨there, onStream, Nat.zero_le _⟩

/-! ## All streams -/

/-- The reads of some streams, merged by number. -/
def merged (l : EventLog) (streams : List String) : List EventRecord :=
  streams.foldr (fun stream rest =>
    (l.readStream stream 0).merge rest fun a b => a.sequence ≤ b.sequence) []

/-- A list in ascending order is what its two parts are merged to. -/
theorem Numbered.merge_parts {l : EventLog} (numbered : Numbered l) (xs : List EventRecord)
    (sub : xs.Sublist l.records) (p : EventRecord → Bool) :
    (xs.filter p).merge (xs.filter fun r => !p r) (fun a b => a.sequence ≤ b.sequence) = xs := by
  have sorted : ∀ ys : List EventRecord, ys.Sublist l.records →
      ys.Pairwise fun a b => decide (a.sequence ≤ b.sequence) = true := by
    intro ys part
    exact (numbered.ascending.sublist part).imp fun lt => by simpa using Nat.le_of_lt lt
  have perm : ((xs.filter p).merge (xs.filter fun r => !p r)
      fun a b => a.sequence ≤ b.sequence).Perm xs :=
    (List.merge_perm_append _).trans (List.filter_append_perm p xs)
  refine List.Perm.eq_of_pairwise ?_ ?_ (sorted xs sub) perm
  · intro a b ha hb ab ba
    have same : a.sequence = b.sequence :=
      Nat.le_antisymm (of_decide_eq_true ab) (of_decide_eq_true ba)
    exact numbered.eq_of_sequence_eq (sub.subset (perm.subset ha)) (sub.subset hb) same
  · refine List.pairwise_merge (fun a b c ab bc => ?_) (fun a b => ?_) _ _
      (sorted _ (List.filter_sublist.trans sub)) (sorted _ (List.filter_sublist.trans sub))
    · simp only [decide_eq_true_eq] at ab bc ⊢
      exact ab.trans bc
    · simpa using Nat.le_total a.sequence b.sequence

/-- Some streams, merged: the records of these streams, each once. -/
theorem Numbered.merged_eq_filter {l : EventLog} (numbered : Numbered l) {streams : List String}
    (distinct : streams.Nodup) : l.merged streams = l.records.filter (·.stream ∈ streams) := by
  induction streams with
  | nil => simp [merged]
  | cons stream rest ih =>
    obtain ⟨new, distinct⟩ := List.nodup_cons.mp distinct
    have here : l.readStream stream 0 =
        (l.records.filter (·.stream ∈ stream :: rest)).filter (·.stream == stream) := by
      rw [List.filter_filter]
      refine List.filter_congr fun r _ => ?_
      by_cases onStream : r.stream = stream <;> simp [onStream]
    have others : l.records.filter (·.stream ∈ rest) =
        (l.records.filter (·.stream ∈ stream :: rest)).filter fun r => !(r.stream == stream) := by
      rw [List.filter_filter]
      refine List.filter_congr fun r _ => ?_
      by_cases onStream : r.stream = stream
      · simp [onStream, new]
      · simp [onStream]
    calc l.merged (stream :: rest)
        = (l.readStream stream 0).merge (l.merged rest) (fun a b => a.sequence ≤ b.sequence) := rfl
      _ = l.records.filter (·.stream ∈ stream :: rest) := by
          rw [ih distinct, here, others]
          exact numbered.merge_parts _ List.filter_sublist _

/-- **All streams, merged, are the records.** -/
theorem Numbered.merged_eq {l : EventLog} (numbered : Numbered l) {streams : List String}
    (distinct : streams.Nodup) (all : ∀ r ∈ l.records, r.stream ∈ streams) :
    l.merged streams = l.records := by
  rw [numbered.merged_eq_filter distinct]
  exact List.filter_eq_self.mpr fun r there => decide_eq_true (all r there)

/-! ## Going on from a number -/

/-- What a log has that an earlier one had not. -/
def added (earlier later : EventLog) : List EventRecord := later.records.drop earlier.size

section Onward

variable {earlier later : EventLog} {stream : String}

theorem records_eq_append_added (grown : earlier.records <+: later.records) :
    later.records = earlier.records ++ earlier.added later := by
  obtain ⟨new, split⟩ := grown
  simp [added, size, ← split]

/-- A read of the later log is the same read of the earlier one and what has been added. -/
theorem readStream_onward (grown : earlier.records <+: later.records) (first : Nat) :
    later.readStream stream first = earlier.readStream stream first ++
      (earlier.added later).filter fun r => r.stream == stream && first ≤ r.sequence := by
  rw [readStream, records_eq_append_added grown, List.filter_append]
  rfl

/-- Behind all that has been seen of a stream, and no further than the log went, there is what has
been added to it. -/
theorem readStream_since (grown : earlier.records <+: later.records) (numbered : Numbered later)
    {first : Nat} (behind : ∀ r ∈ earlier.readStream stream 0, r.sequence < first)
    (within : first ≤ earlier.size) :
    later.readStream stream first = (earlier.added later).filter (·.stream == stream) := by
  have seen : earlier.readStream stream first = [] := by
    refine List.eq_nil_iff_forall_not_mem.mpr fun r hr => ?_
    obtain ⟨there, onStream, above⟩ := mem_readStream.mp hr
    have below : r.sequence < first :=
      behind r (mem_readStream.mpr ⟨there, onStream, Nat.zero_le _⟩)
    exact absurd above (Nat.not_le.mpr below)
  rw [readStream_onward grown, seen, List.nil_append]
  refine List.filter_congr fun r new => ?_
  have above : first ≤ r.sequence := within.trans (numbered.le_sequence_of_mem_drop new)
  simp [above]

end Onward

/-- The last record of a read is the last of its stream. -/
theorem Numbered.sequence_le_last {l : EventLog} (numbered : Numbered l) {stream : String}
    {first : Nat} {last : EventRecord} (seen : (l.readStream stream first).getLast? = some last)
    {r : EventRecord} (hr : r ∈ l.readStream stream 0) : r.sequence ≤ last.sequence := by
  have lastOfAll : (l.readStream stream 0).getLast? = some last := by
    rw [numbered.readStream_split stream first, List.getLast?_append, seen, Option.some_or]
  obtain ⟨front, split⟩ := List.getLast?_eq_some_iff.mp lastOfAll
  have ordered := numbered.readStream_ascending stream 0
  rw [split] at hr ordered
  rcases List.mem_append.mp hr with before | here
  · exact Nat.le_of_lt ((List.pairwise_append.mp ordered).2.2 r before last (by simp))
  · exact (List.mem_singleton.mp here ▸ Nat.le_refl _)

/-! ## A reader that goes on -/

/-- A reader of a stream: what it has seen, and from which number it reads next. -/
structure Reader where
  seen : List EventRecord
  next : Nat

namespace Reader

/-- A reader at the beginning. -/
def fresh : Reader := ⟨[], 0⟩

/-- Reads, and goes on behind the last record seen. -/
def read (stream : String) (l : EventLog) (reader : Reader) : Reader :=
  ⟨reader.seen ++ l.readStream stream reader.next,
    ((l.readStream stream reader.next).getLast?.map (·.sequence + 1)).getD reader.next⟩

/-- The log is called, and the reader reads after each batch of calls. -/
def follow (stream : String) : EventLog → Reader → List (List LogCall) → EventLog × Reader
  | l, reader, [] => (l, reader)
  | l, reader, batch :: batches =>
    follow stream (l.run batch).2 (reader.read stream (l.run batch).2) batches

/-- The reader has seen all of the stream that the log has, and goes on behind it. -/
structure CaughtUp (stream : String) (l : EventLog) (reader : Reader) : Prop where
  seen : reader.seen = l.readStream stream 0
  behind : ∀ r ∈ l.readStream stream 0, r.sequence < reader.next
  within : reader.next ≤ l.size

/-- **One read.** A reader that had caught up has caught up after its next read, and what it read
is what has been added to the stream. -/
theorem CaughtUp.read {stream : String} {earlier later : EventLog} {reader : Reader}
    (caughtUp : CaughtUp stream earlier reader) (grown : earlier.records <+: later.records)
    (numbered : Numbered later) :
    CaughtUp stream later (reader.read stream later) ∧
      (reader.read stream later).seen =
        reader.seen ++ (earlier.added later).filter (·.stream == stream) := by
  have page : later.readStream stream reader.next =
      (earlier.added later).filter (·.stream == stream) :=
    readStream_since grown numbered caughtUp.behind caughtUp.within
  have whole : later.readStream stream 0 =
      reader.seen ++ later.readStream stream reader.next := by
    rw [page, caughtUp.seen, readStream_onward grown 0]
    simp
  refine ⟨⟨whole.symm, ?_, ?_⟩, by rw [← page]; rfl⟩
  · intro r hr
    cases last : (later.readStream stream reader.next).getLast? with
    | none =>
      rw [whole, List.getLast?_eq_none_iff.mp last, List.append_nil, caughtUp.seen] at hr
      simpa [Reader.read, last] using caughtUp.behind r hr
    | some r' =>
      have le : r.sequence ≤ r'.sequence := numbered.sequence_le_last last hr
      simpa [Reader.read, last] using Nat.lt_succ_of_le le
  · cases last : (later.readStream stream reader.next).getLast? with
    | none =>
      have longer : earlier.size ≤ later.size := grown.length_le
      simpa [Reader.read, last] using caughtUp.within.trans longer
    | some r' =>
      have there : r' ∈ later.records :=
        (mem_readStream.mp (List.mem_of_getLast? last)).1
      simpa [Reader.read, last] using Nat.succ_le_of_lt (numbered.sequence_lt_size there)

/-- **All reads.** Whatever is called between its reads, and however often it reads, a reader that
goes on behind what it has seen has seen the whole stream. -/
theorem caughtUp_follow (source : TimeSource) (capacity : Option Nat) (stream : String)
    (batches : List (List LogCall)) (calls : List LogCall) {reader : Reader}
    (caughtUp : CaughtUp stream (after source capacity calls) reader) :
    (follow stream (after source capacity calls) reader batches).1 =
        after source capacity (calls ++ batches.flatten) ∧
      CaughtUp stream (after source capacity (calls ++ batches.flatten))
        (follow stream (after source capacity calls) reader batches).2 := by
  induction batches generalizing calls reader with
  | nil => simpa [follow] using caughtUp
  | cons batch rest ih =>
    have called := run_after source capacity calls batch
    have grown := records_after_prefix source capacity calls batch
    have next := caughtUp.read grown (numbered_after source capacity (calls ++ batch))
    simpa only [follow, called, List.flatten_cons, List.append_assoc] using
      ih (calls ++ batch) next.1

end Reader

/-! ## Streams over any history -/

/-- What reads of streams show of the log that was empty before some calls. -/
structure StreamsPartition (source : TimeSource) (capacity : Option Nat) (calls : List LogCall) :
    Prop where
  /-- A read of a stream shows records of the log, in the order of the log. -/
  sublist : ∀ stream first, ((after source capacity calls).readStream stream first).Sublist
    (after source capacity calls).records
  /-- These are the ones on the stream whose number is not below the one asked for. -/
  mem_iff : ∀ stream first r, r ∈ (after source capacity calls).readStream stream first ↔
    r ∈ (after source capacity calls).records ∧ r.stream = stream ∧ first ≤ r.sequence
  /-- Their numbers ascend, so each is shown once. -/
  ascending : ∀ stream first, ((after source capacity calls).readStream stream first).Pairwise
    fun a b => a.sequence < b.sequence
  /-- A record is on exactly one stream. -/
  own : ∀ r ∈ (after source capacity calls).records,
    ∃! stream, r ∈ (after source capacity calls).readStream stream 0
  /-- Merged by number, the streams are the records: all of them, each once, and in their order. -/
  merged : ∀ streams : List String, streams.Nodup →
    (∀ r ∈ (after source capacity calls).records, r.stream ∈ streams) →
    (after source capacity calls).merged streams = (after source capacity calls).records
  /-- What a stream has below a number and what it has from there on are the stream. -/
  paged : ∀ stream first, (after source capacity calls).readStream stream 0 =
    ((after source capacity calls).readStream stream 0).filter (·.sequence < first) ++
      (after source capacity calls).readStream stream first
  /-- A later read shows what the same read showed, and of what has been added what it asks for. -/
  onward : ∀ stream first more, (after source capacity (calls ++ more)).readStream stream first =
    (after source capacity calls).readStream stream first ++
      ((after source capacity calls).added (after source capacity (calls ++ more))).filter
        fun r => r.stream == stream && first ≤ r.sequence
  /-- A later read behind the last record seen shows what has been added to the stream. -/
  since : ∀ stream first last more,
    ((after source capacity calls).readStream stream first).getLast? = some last →
    (after source capacity (calls ++ more)).readStream stream (last.sequence + 1) =
      ((after source capacity calls).added (after source capacity (calls ++ more))).filter
        (·.stream == stream)
  /-- So does a later read behind the last record of the whole log. -/
  sinceAll : ∀ stream more,
    (after source capacity (calls ++ more)).readStream stream (after source capacity calls).size =
      ((after source capacity calls).added (after source capacity (calls ++ more))).filter
        (·.stream == stream)
  /-- A reader that has gone on behind what it had seen, after each of any batches of calls, has
  seen the stream. -/
  reader : ∀ stream batches, batches.flatten = calls →
    (Reader.follow stream (empty source capacity) .fresh batches).2.seen =
      (after source capacity calls).readStream stream 0

/-- **The streams of an event log.** Whatever the capacity is, and whatever has been called: a read
of a stream from a number on shows exactly the records there, in order; the streams are the parts
of the log; and the numbers of the whole log are places to go on from in each of its streams. -/
theorem streams_partition_records (source : TimeSource) (capacity : Option Nat) (calls : List LogCall) :
    StreamsPartition source capacity calls := by
  have numbered := numbered_after source capacity calls
  have grown := records_after_prefix source capacity calls
  refine ⟨readStream_sublist _, fun _ _ _ => mem_readStream, numbered.readStream_ascending, ?_,
    fun _ => numbered.merged_eq, numbered.readStream_split, ?_, ?_, ?_, ?_⟩
  · intro r there
    refine ⟨r.stream, mem_readStream.mpr ⟨there, rfl, Nat.zero_le _⟩, fun stream shown => ?_⟩
    exact (mem_readStream.mp shown).2.1.symm
  · intro stream first more
    exact readStream_onward (grown more) first
  · intro stream first last more seen
    have there : last ∈ (after source capacity calls).records :=
      (mem_readStream.mp (List.mem_of_getLast? seen)).1
    exact readStream_since (grown more)
      (numbered_after source capacity (calls ++ more))
      (fun r hr => Nat.lt_succ_of_le (numbered.sequence_le_last seen hr))
      (Nat.succ_le_of_lt (numbered.sequence_lt_size there))
  · intro stream more
    exact readStream_since (grown more)
      (numbered_after source capacity (calls ++ more))
      (fun r hr => numbered.sequence_lt_size (mem_readStream.mp hr).1) (Nat.le_refl _)
  · intro stream batches all
    have start : Reader.CaughtUp stream (after source capacity []) .fresh :=
      ⟨rfl, fun r hr => by simp [after, run, empty, readStream] at hr, Nat.zero_le _⟩
    have reached := (Reader.caughtUp_follow source capacity stream batches [] start).2.seen
    rwa [List.nil_append, all] at reached

/-- Two streams: the number to read from is one of the whole log. -/
example (now : Option Instant) :
    (after .system none [.append "a" "begun" .null now, .append "b" "begun" .null now,
      .append "a" "done" .null now]).readStream "a" 1 = [⟨2, "a", "done", .null, now⟩] := rfl

end EventLog

end HostBench
