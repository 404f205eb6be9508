/-
  Lengths of time: whole seconds below 2^64 and nanoseconds of a second. A sum that would pass
  the longest length stops there.
-/
namespace HostBench

/-- Nanoseconds in a second. -/
abbrev nanosPerSecond : Nat := 1000000000

theorem nanosPerSecond_pos : 0 < nanosPerSecond := by decide

/-- The first number of seconds that no duration holds. -/
abbrev secondsBound : Nat := 18446744073709551616

/-- A length of time as seconds and nanoseconds of a second. -/
@[ext]
structure Duration where
  seconds : Nat
  nanos : Nat
  seconds_lt : seconds < secondsBound
  nanos_lt : nanos < nanosPerSecond
  deriving DecidableEq

namespace Duration

/-- No time at all. -/
def zero : Duration := ⟨0, 0, by decide, by decide⟩

/-- The longest duration. -/
def max : Duration := ⟨secondsBound - 1, nanosPerSecond - 1, by decide, by decide⟩

instance : Inhabited Duration := ⟨zero⟩

/-- The length in nanoseconds. -/
def toNanos (d : Duration) : Nat := d.seconds * nanosPerSecond + d.nanos

/-- The duration of `n` nanoseconds, or the longest one where that is shorter. -/
def ofNanos (n : Nat) : Duration :=
  if h : n / nanosPerSecond < secondsBound then
    ⟨n / nanosPerSecond, n % nanosPerSecond, h, Nat.mod_lt _ (by decide)⟩
  else max

/-- The duration of `n` milliseconds, or the longest one where that is shorter. -/
def ofMillis (n : Nat) : Duration := ofNanos (n * 1000000)

/-- The duration of `n` seconds, or the longest one where that is shorter. -/
def ofSeconds (n : Nat) : Duration := ofNanos (n * nanosPerSecond)

/-- Whole milliseconds, rounded down. -/
def toMillis (d : Duration) : Nat := d.toNanos / 1000000

/-- Whole milliseconds, rounded up. -/
def toMillisUp (d : Duration) : Nat := (d.toNanos + 999999) / 1000000

instance : LE Duration := ⟨fun a b => a.toNanos ≤ b.toNanos⟩

instance : LT Duration := ⟨fun a b => a.toNanos < b.toNanos⟩

instance (a b : Duration) : Decidable (a ≤ b) :=
  inferInstanceAs (Decidable (a.toNanos ≤ b.toNanos))

instance (a b : Duration) : Decidable (a < b) :=
  inferInstanceAs (Decidable (a.toNanos < b.toNanos))

theorem le_def {a b : Duration} : a ≤ b ↔ a.toNanos ≤ b.toNanos := Iff.rfl

theorem lt_def {a b : Duration} : a < b ↔ a.toNanos < b.toNanos := Iff.rfl

theorem toNanos_inj {a b : Duration} (h : a.toNanos = b.toNanos) : a = b := by
  have ha := a.nanos_lt
  have hb := b.nanos_lt
  simp only [toNanos, nanosPerSecond] at h ha hb
  ext <;> omega

@[simp] theorem toNanos_zero : zero.toNanos = 0 := rfl

theorem toNanos_max : max.toNanos = 18446744073709551615999999999 := rfl

theorem le_max (d : Duration) : d ≤ max := by
  have hs := d.seconds_lt
  have hn := d.nanos_lt
  rw [le_def, toNanos_max]
  simp only [toNanos, nanosPerSecond, secondsBound] at *
  omega

theorem toNanos_ofNanos (n : Nat) : (ofNanos n).toNanos = min n max.toNanos := by
  unfold ofNanos
  by_cases h : n / nanosPerSecond < secondsBound
  · have bound : n / 1000000000 < 18446744073709551616 := h
    rw [dif_pos h, toNanos_max]
    simp only [toNanos, nanosPerSecond]
    omega
  · rw [dif_neg h, toNanos_max]
    simp only [nanosPerSecond, secondsBound] at *
    omega

theorem ofNanos_toNanos (d : Duration) : ofNanos d.toNanos = d := by
  apply toNanos_inj
  rw [toNanos_ofNanos]
  exact Nat.min_eq_left (le_max d)

/-- No length at all. -/
def isZero (d : Duration) : Bool := d.seconds == 0 && d.nanos == 0

theorem isZero_iff {d : Duration} : d.isZero = true ↔ d = zero := by
  rw [Duration.ext_iff]
  simp [isZero, zero]

/-! ## Arithmetic, with the carry between seconds and nanoseconds -/

/-- The sum, or the longest duration where the sum would pass it. -/
def add (a b : Duration) : Duration :=
  if h : a.seconds + b.seconds + (a.nanos + b.nanos) / nanosPerSecond < secondsBound then
    ⟨a.seconds + b.seconds + (a.nanos + b.nanos) / nanosPerSecond,
      (a.nanos + b.nanos) % nanosPerSecond, h, Nat.mod_lt _ (by decide)⟩
  else max

instance : Add Duration := ⟨add⟩

/-- The difference, or no time where `b` is the longer one; a second is borrowed where the
nanoseconds do not suffice. -/
def sub (a b : Duration) : Duration :=
  if a < b then zero
  else if b.nanos ≤ a.nanos then
    ⟨a.seconds - b.seconds, a.nanos - b.nanos,
      Nat.lt_of_le_of_lt (Nat.sub_le _ _) a.seconds_lt,
      Nat.lt_of_le_of_lt (Nat.sub_le _ _) a.nanos_lt⟩
  else
    ⟨a.seconds - b.seconds - 1, (a.nanos + nanosPerSecond - b.nanos) % nanosPerSecond,
      Nat.lt_of_le_of_lt (Nat.le_trans (Nat.sub_le _ _) (Nat.sub_le _ _)) a.seconds_lt,
      Nat.mod_lt _ (by decide)⟩

instance : Sub Duration := ⟨sub⟩

/-- Half of the duration, rounded down; an odd second leaves half a second to the nanoseconds. -/
def half (d : Duration) : Duration :=
  ⟨d.seconds / 2, d.seconds % 2 * (nanosPerSecond / 2) + d.nanos / 2,
    Nat.lt_of_le_of_lt (Nat.div_le_self _ _) d.seconds_lt,
    by have := d.nanos_lt; simp only [nanosPerSecond] at *; omega⟩

theorem toNanos_add (a b : Duration) : (a + b).toNanos = min (a.toNanos + b.toNanos) max.toNanos := by
  show (add a b).toNanos = _
  have ha := a.nanos_lt
  have hb := b.nanos_lt
  unfold add
  by_cases h : a.seconds + b.seconds + (a.nanos + b.nanos) / nanosPerSecond < secondsBound
  · have bound : a.seconds + b.seconds + (a.nanos + b.nanos) / 1000000000 <
        18446744073709551616 := h
    rw [dif_pos h, toNanos_max]
    simp only [toNanos, nanosPerSecond]
    omega
  · rw [dif_neg h, toNanos_max]
    simp only [toNanos, nanosPerSecond, secondsBound] at *
    omega

theorem toNanos_sub (a b : Duration) : (a - b).toNanos = a.toNanos - b.toNanos := by
  show (sub a b).toNanos = _
  have ha := a.nanos_lt
  have hb := b.nanos_lt
  unfold sub
  split
  · rename_i h
    rw [lt_def] at h
    simp only [toNanos_zero]
    omega
  · rename_i h
    rw [lt_def] at h
    split <;> simp only [toNanos, nanosPerSecond] at * <;> omega

theorem toNanos_half (d : Duration) : d.half.toNanos = d.toNanos / 2 := by
  have h := d.nanos_lt
  simp only [half, toNanos, nanosPerSecond] at *
  omega

/-! ## Text -/

/-- The digits of `n` on exactly `width` places, zeros in front. -/
def padded (width n : Nat) : List Char :=
  let digits := Nat.toDigits 10 n
  List.replicate (width - digits.length) '0' ++ digits

/-- `whole` and the fraction `part / 10^places`, without trailing zeros and without a point where
no fraction is left. -/
def decimalText (whole part places : Nat) : String :=
  let fraction := ((padded places part).reverse.dropWhile (· == '0')).reverse
  let digits := Nat.toDigits 10 whole
  String.ofList (if fraction.isEmpty then digits else digits ++ '.' :: fraction)

/-- The length in the largest of the units s, ms, µs, ns that it reaches, with its exact fraction. -/
def text (d : Duration) : String :=
  if 0 < d.seconds then decimalText d.seconds d.nanos 9 ++ "s"
  else if 1000000 ≤ d.nanos then decimalText (d.nanos / 1000000) (d.nanos % 1000000) 6 ++ "ms"
  else if 1000 ≤ d.nanos then decimalText (d.nanos / 1000) (d.nanos % 1000) 3 ++ "µs"
  else decimalText d.nanos 0 0 ++ "ns"

end Duration

end HostBench
