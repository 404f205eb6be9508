/-
  Payloads that come back. Every value of every shape is read from the JSON that is written for it
  (`read_write`): numbers come back in the full range of their types, text and lists at any length, and
  a record from the object of its fields.

  In a log such a payload stays what it is, under the number that it has got, whatever is appended later
  (`kept_after`). So a value that is appended to a log with room is what its record is decoded to, at
  once and from every later read (`decode_appended_eq`).
-/
import HostBench.Proofs.Records.Streams

namespace HostBench

namespace Shape

/-! ## Reading what is written -/

theorem readInt_of_mem {expected : String} {low high n : Int} (least : low ≤ n) (below : n < high) :
    readInt expected low high (.int n) = .ok n := if_pos ⟨least, below⟩

theorem readByte_writeByte (b : UInt8) : readByte (writeByte b) = .ok b := by
  have least : (0 : Int) ≤ b.toNat := Int.natCast_nonneg _
  have below : (b.toNat : Int) < 256 := Int.ofNat_lt.mpr b.toNat_lt
  unfold readByte writeByte
  rw [readInt_of_mem least below]
  show Except.ok (UInt8.ofNat b.toNat) = .ok b
  rw [UInt8.ofNat_toNat]

theorem readAttempt_int (n : UInt32) : readAttempt (.int n.toNat) = .ok n := by
  have least : (0 : Int) ≤ n.toNat := Int.natCast_nonneg _
  have below : (n.toNat : Int) < 4294967296 := Int.ofNat_lt.mpr n.toNat_lt
  unfold readAttempt
  rw [readInt_of_mem least below]
  show Except.ok (UInt32.ofNat n.toNat) = .ok n
  rw [UInt32.ofNat_toNat]

theorem mapM_readByte (bs : List UInt8) : (bs.map writeByte).mapM readByte = .ok bs := by
  induction bs with
  | nil => rfl
  | cons b bs ih =>
    rw [List.map_cons, List.mapM_cons, readByte_writeByte, ih]
    rfl

/-- The entries of a job payload stand in the order of their keys. -/
theorem writeJob_eq (j : JobStarted) :
    writeJob j = .object [("attempt", .int j.attempt.toNat), ("job", .string j.job)] := by
  have order : "attempt" < "job" := by decide
  unfold writeJob Json.ofEntries
  simp only [List.foldl_cons, List.foldl_nil, Json.insertEntry, if_pos order]

theorem readJob_writeJob (j : JobStarted) : readJob (writeJob j) = .ok j := by
  rw [writeJob_eq]
  have attempt : readJobEntry (none, none) ("attempt", .int j.attempt.toNat) =
      .ok (none, some j.attempt) := by
    show (readAttempt (.int j.attempt.toNat)).map (fun attempt => ((none : Option String), some attempt)) =
      .ok (none, some j.attempt)
    rw [readAttempt_int]
    rfl
  have both : [("attempt", Json.int j.attempt.toNat), ("job", Json.string j.job)].foldlM readJobEntry
      (none, none) = .ok (some j.job, some j.attempt) := by
    rw [List.foldlM_cons, attempt]
    rfl
  unfold readJob
  dsimp only
  rw [both]
  rfl

/-- **A value is read from what is written for it.** -/
theorem read_write (s : Shape) (v : s.Value) : s.read (s.write v) = .ok v := by
  cases s with
  | byte => exact readByte_writeByte v
  | word =>
    have least : (0 : Int) ≤ UInt64.toNat v := Int.natCast_nonneg _
    have below : (UInt64.toNat v : Int) < 18446744073709551616 := by
      have bound := UInt64.toNat_lt v
      omega
    unfold read write
    dsimp only
    rw [readInt_of_mem least below]
    show Except.ok (UInt64.ofNat (UInt64.toNat v)) = .ok v
    rw [UInt64.ofNat_toNat]
  | integer =>
    have least : -9223372036854775808 ≤ Int64.toInt v := Int64.le_toInt v
    have below : Int64.toInt v < 9223372036854775808 := Int64.toInt_lt v
    unfold read write
    dsimp only
    rw [readInt_of_mem least below]
    show Except.ok (Int64.ofInt (Int64.toInt v)) = .ok v
    rw [Int64.ofInt_toInt]
  | boolean => rfl
  | string => rfl
  | optionalByte =>
    cases v with
    | none => rfl
    | some b =>
      show (readByte (writeByte b)).map some = .ok (some b)
      rw [readByte_writeByte]
      rfl
  | bytes => exact mapM_readByte v
  | unit => rfl
  | job => exact readJob_writeJob v

end Shape

namespace EventLog

/-! ## Payloads in a log -/

/-- A record that a log shows when it is read, and the only one under its number. -/
structure Keeps (l : EventLog) (r : EventRecord) : Prop where
  /-- The record is shown by a read of the whole log, -/
  all : ∃ rs, (l.answer .readAll).1 = .records rs ∧ r ∈ rs
  /-- and by a read of its stream from a number that is not behind its own. -/
  stream : ∀ first, first ≤ r.sequence →
    ∃ rs, (l.answer (.readStream r.stream first)).1 = .records rs ∧ r ∈ rs
  /-- What any read shows under the number of the record is the record. -/
  only : ∀ read rs, (l.answer read).1 = .records rs → ∀ r' ∈ rs, r'.sequence = r.sequence → r' = r

theorem Numbered.keeps {l : EventLog} (numbered : Numbered l) {r : EventRecord} (there : r ∈ l.records) :
    l.Keeps r where
  all := ⟨_, rfl, there⟩
  stream first le := ⟨_, rfl, mem_readStream.mpr ⟨there, rfl, le⟩⟩
  only read rs shown r' hr' same := by
    have there' : r' ∈ l.records := by
      cases read with
      | readAll =>
        cases shown
        exact hr'
      | readStream stream first =>
        cases shown
        exact (mem_readStream.mp hr').1
      | append stream kind payload now => simp [answer, Prod.map] at shown
      | appendJson stream kind written now => simp [answer, Prod.map] at shown
      | size => simp [answer] at shown
    exact numbered.eq_of_sequence_eq there' there same

/-- With room, what was appended is kept in the log, whatever is called later. -/
theorem kept_after {source : TimeSource} {capacity : Option Nat} {calls : List LogCall}
    (stream kind : String) (payload : Json) (now : Option Instant)
    (room : Room capacity (after source capacity calls).size) :
    ∃ l, (after source capacity calls).appendWritten stream kind (.ok payload) now =
        .ok (l, ⟨(after source capacity calls).size, stream, kind, payload, now⟩) ∧
      ∀ more, (l.run more).2.Keeps
        ⟨(after source capacity calls).size, stream, kind, payload, now⟩ := by
  have limit : (after source capacity calls).capacity = capacity := by
    rw [after_eq]
    rfl
  have left : Room (after source capacity calls).capacity (after source capacity calls).size :=
    fun c atMost => room c (limit ▸ atMost)
  have took : (after source capacity calls).append stream kind payload now =
      .ok ({ after source capacity calls with
        records := (after source capacity calls).records ++
          [⟨(after source capacity calls).size, stream, kind, payload, now⟩] },
        ⟨(after source capacity calls).size, stream, kind, payload, now⟩) :=
    append_eq_ok_iff.mpr ⟨left, rfl, rfl⟩
  refine ⟨_, took, ?_⟩
  intro more
  -- the log with the record is the log after one more call
  have called : after source capacity (calls ++ [.append stream kind payload now]) =
      { after source capacity calls with
        records := (after source capacity calls).records ++
          [⟨(after source capacity calls).size, stream, kind, payload, now⟩] } := by
    rw [← run_after]
    simp only [run, answer, took, settle, Prod.map, id]
  rw [← called, run_after]
  have grown := records_after_prefix source capacity (calls ++ [.append stream kind payload now]) more
  apply (numbered_after source capacity _).keeps
  apply grown.subset
  rw [called]
  exact List.mem_append_right _ List.mem_cons_self

/-- **Decoding undoes appending.** A value of any shape that is appended to a log with room is taken,
under the next number. Its record is decoded to the value, and so is the record of that number in every
read of the log and of its streams, whatever is called in between. -/
theorem decode_appended_eq (source : TimeSource) (capacity : Option Nat) (calls : List LogCall) (s : Shape)
    (v : s.Value) (stream kind : String) (now : Option Instant)
    (room : capacity = none ∨ ∃ c, capacity = some c ∧ (after source capacity calls).size < c) :
    ∃ l r, (after source capacity calls).appendPayload stream kind (.shaped s v) now = .ok (l, r) ∧
      r.sequence = (after source capacity calls).size ∧ r.stream = stream ∧ r.kind = kind ∧
      r.decode s = .ok v ∧
      ∀ more, (l.run more).2.Keeps r ∧
        ∀ read rs, ((l.run more).2.answer read).1 = .records rs →
          ∀ r' ∈ rs, r'.sequence = r.sequence → r'.decode s = .ok v := by
  obtain ⟨l, took, kept⟩ := kept_after stream kind (s.write v) now (room_iff.mpr room)
  have restored : EventRecord.decode
      ⟨(after source capacity calls).size, stream, kind, s.write v, now⟩ s = .ok v := by
    unfold EventRecord.decode
    rw [Shape.read_write]
    rfl
  refine ⟨l, _, took, rfl, rfl, rfl, restored, fun more => ⟨kept more, ?_⟩⟩
  intro read rs shown r' hr' same
  rw [(kept more).only read rs shown r' hr' same]
  exact restored

/-- A job payload as the third record of a log with room for four, after a refused one. -/
theorem decode_appended_job :
    ∃ l r, (after .system (some 4) [.append "a" "begun" .null none,
        .appendJson "a" "odd" (.error "no JSON") none, .append "b" "begun" (.int 7) none]).appendPayload
          "jobs" "job_started" (.shaped .job ⟨"re\"index", 4294967295⟩) none = .ok (l, r) ∧
      r.sequence = 2 ∧ r.decode .job = .ok ⟨"re\"index", 4294967295⟩ ∧
      ∀ more, (l.run more).2.Keeps r := by
  have room : (some 4 = none) ∨ ∃ c, some 4 = some c ∧ (after .system (some 4)
      [.append "a" "begun" .null none, .appendJson "a" "odd" (.error "no JSON") none,
        .append "b" "begun" (.int 7) none]).size < c := .inr ⟨4, rfl, by decide⟩
  obtain ⟨l, r, took, sequence, -, -, restored, kept⟩ := decode_appended_eq .system (some 4)
    [.append "a" "begun" .null none, .appendJson "a" "odd" (.error "no JSON") none,
      .append "b" "begun" (.int 7) none] .job ⟨"re\"index", 4294967295⟩ "jobs" "job_started" none room
  exact ⟨l, r, took, sequence, restored, fun more => (kept more).1⟩

end EventLog

end HostBench
