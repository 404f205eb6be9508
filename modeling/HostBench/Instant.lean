/-
  Points on a monotonic time line: whole seconds in the range of a signed 64-bit word and
  nanoseconds of a second. Main statements: `add?` is exact and fails only past the latest instant
  (`toNanos_add?`, `add?_isSome_iff`); `reach` finds the longest representable offset.
-/
import HostBench.Duration

namespace HostBench

/-- The first number of seconds, in absolute value, that no later instant holds. -/
abbrev instantBound : Int := 9223372036854775808

/-- A point in time as seconds and nanoseconds after an arbitrary zero. -/
@[ext]
structure Instant where
  seconds : Int
  nanos : Nat
  le_seconds : -instantBound ≤ seconds
  seconds_lt : seconds < instantBound
  nanos_lt : nanos < nanosPerSecond

namespace Instant

theorem latest_in_range :
    (-instantBound ≤ 9223372036854775807 ∧ 9223372036854775807 < instantBound) ∧
      999999999 < nanosPerSecond := by decide

theorem zero_in_range : -instantBound ≤ 0 ∧ 0 < instantBound := by decide

/-- The latest instant that can be represented. -/
def latest : Instant :=
  ⟨9223372036854775807, 999999999, latest_in_range.1.1, latest_in_range.1.2, latest_in_range.2⟩

/-- Nanoseconds after the zero of the time line. -/
def toNanos (t : Instant) : Int := t.seconds * nanosPerSecond + t.nanos

/-- The instant `n` nanoseconds after zero, held inside the representable range. -/
def ofNanos (n : Int) : Instant :=
  if h : -instantBound ≤ n.fdiv nanosPerSecond ∧ n.fdiv nanosPerSecond < instantBound then
    ⟨n.fdiv nanosPerSecond, (n.fmod nanosPerSecond).toNat, h.1, h.2, by
      have := Int.fmod_lt_of_pos n (b := (nanosPerSecond : Int)) (by decide)
      have := Int.fmod_nonneg_of_pos n (b := (nanosPerSecond : Int)) (by decide)
      omega⟩
  else latest

instance : Inhabited Instant := ⟨⟨0, 0, zero_in_range.1, zero_in_range.2, nanosPerSecond_pos⟩⟩

/-- The instant `d` later, unless it lies past the latest one; the nanoseconds carry one second. -/
def add? (t : Instant) (d : Duration) : Option Instant :=
  if h : t.seconds + d.seconds + ((t.nanos + d.nanos) / nanosPerSecond : Nat) < instantBound then
    some ⟨t.seconds + d.seconds + ((t.nanos + d.nanos) / nanosPerSecond : Nat),
      (t.nanos + d.nanos) % nanosPerSecond,
      by have := t.le_seconds; simp only [instantBound, nanosPerSecond] at *; omega, h, Nat.mod_lt _ (by decide)⟩
  else none

/-- The time from `s` to `t`, or none where `t` is the earlier one. -/
def since (t s : Instant) : Duration := Duration.ofNanos (t.toNanos - s.toNanos).toNat

/-- The origin from which at most `headroom` can pass before the latest instant. -/
def withHeadroom (headroom : Duration) : Instant := ofNanos (latest.toNanos - headroom.toNanos)

theorem toNanos_latest : latest.toNanos = 9223372036854775807999999999 := rfl

theorem toNanos_le_latest (t : Instant) : t.toNanos ≤ latest.toNanos := by
  have hs := t.seconds_lt
  have hn := t.nanos_lt
  rw [toNanos_latest]
  simp only [toNanos, nanosPerSecond, instantBound] at *
  omega

theorem toNanos_add? {t u : Instant} {d : Duration} (h : t.add? d = some u) :
    u.toNanos = t.toNanos + d.toNanos := by
  unfold add? at h
  split at h
  · cases h
    simp only [toNanos, Duration.toNanos, nanosPerSecond]
    omega
  · cases h

theorem add?_isSome_iff {t : Instant} {d : Duration} :
    (t.add? d).isSome = true ↔ t.toNanos + d.toNanos ≤ latest.toNanos := by
  have ht := t.nanos_lt
  have hd := d.nanos_lt
  rw [toNanos_latest]
  unfold add?
  split
  · rename_i h
    have bound : t.seconds + d.seconds + ((t.nanos + d.nanos) / 1000000000 : Nat) <
        9223372036854775808 := h
    simp only [Option.isSome_some, true_iff, toNanos, Duration.toNanos, nanosPerSecond]
    omega
  · rename_i h
    have bound : ¬ t.seconds + d.seconds + ((t.nanos + d.nanos) / 1000000000 : Nat) <
        9223372036854775808 := h
    simp only [Option.isSome_none, Bool.false_eq_true, false_iff, toNanos, Duration.toNanos,
      nanosPerSecond] at *
    omega

/-! ## The longest representable offset -/

/-- A duration of one nanosecond. -/
def tick : Duration := Duration.ofNanos 1

theorem toNanos_mid {low high : Duration} (h : tick < high - low) :
    low.toNanos < (low + (high - low).half).toNanos ∧
      (low + (high - low).half).toNanos < high.toNanos := by
  have gap : 1 < high.toNanos - low.toNanos := by
    rw [← Duration.toNanos_sub]; exact h
  have top := Duration.le_def.mp (Duration.le_max high)
  rw [Duration.toNanos_add, Duration.toNanos_half, Duration.toNanos_sub]
  omega

/-- Narrows `low`, which is accepted, and `high`, which is not, to neighbours, always taking the
middle; the answer is the last accepted duration. -/
def bisect (accepts : Duration → Bool) (low high : Duration) : Duration :=
  if _h : tick < high - low then
    if accepts (low + (high - low).half) then bisect accepts (low + (high - low).half) high
    else bisect accepts low (low + (high - low).half)
  else low
termination_by high.toNanos - low.toNanos
decreasing_by
  · have := toNanos_mid _h; omega
  · have := toNanos_mid _h; omega

/-- The longest offset up to `wanted` that leads from `origin` to a representable instant. -/
def reach (origin : Instant) (wanted : Duration) : Duration :=
  if (origin.add? wanted).isSome then wanted
  else bisect (fun offset => (origin.add? offset).isSome) .zero wanted

end Instant

end HostBench
