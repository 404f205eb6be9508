/-
  Binary floating point numbers of 64 bits: rounding a fraction or a decimal to the nearest one.
  What is rounded reads back at once if it is such a number itself (`divNearest_of_dvd`).
-/
namespace HostBench

/-- A number `±mantissa · 2^exponent`, an infinity, or no number. -/
inductive Binary64 where
  | finite (negative : Bool) (mantissa : Nat) (exponent : Int)
  | infinite (negative : Bool)
  | nan
  deriving DecidableEq

namespace Binary64

/-- The quotient rounded to the nearest whole number, a tie to the even one. -/
def divNearest (num den : Nat) : Nat :=
  let q := num / den
  let twice := 2 * (num % den)
  if twice < den then q
  else if den < twice then q + 1
  else q + q % 2

/-- A decimal `digits · 10^exponent` as numerator and denominator. -/
def fraction (digits : Nat) (exponent : Int) : Nat × Nat :=
  (digits * Nat.pow 10 exponent.toNat, Nat.pow 10 (-exponent).toNat)

/-- The first mantissa with more than 53 binary digits. -/
def mantissaBound : Nat := 9007199254740992

/-- The least exponent of the unit in the last place. -/
def leastExponent : Int := -1074

/-- The greatest exponent of the unit in the last place. -/
def greatestExponent : Int := 971

/-- `num / den` in units of `2^exponent`, rounded to nearest. -/
def unitsOf (num den : Nat) (exponent : Int) : Nat :=
  divNearest (num * Nat.pow 2 (-exponent).toNat) (den * Nat.pow 2 exponent.toNat)

/-- Zero, with a sign. -/
def zero (negative : Bool) : Binary64 := .finite negative 0 leastExponent

/-- The nearest number to `± num / den`, a tie to the even mantissa. -/
def ofFraction (negative : Bool) (num den : Nat) : Binary64 :=
  if num = 0 then zero negative
  else
    let guess : Int := (num.log2 : Int) - den.log2 - 53
    let first := if guess < leastExponent then leastExponent else guess
    let exponent :=
      if unitsOf num den first ≤ mantissaBound then first
      else if unitsOf num den (first + 1) ≤ mantissaBound then first + 1
      else first + 2
    let units := unitsOf num den exponent
    let (mantissa, exponent) :=
      if units = mantissaBound then (mantissaBound / 2, exponent + 1) else (units, exponent)
    if greatestExponent < exponent then .infinite negative else .finite negative mantissa exponent

/-- The nearest number to `± digits · 10^exponent`. -/
def ofDecimal (negative : Bool) (digits : Nat) (exponent : Int) : Binary64 :=
  let magnitude := ((Nat.toDigits 10 digits).length : Int) + exponent
  if digits = 0 ∨ magnitude < -330 then zero negative
  else if 310 < magnitude then .infinite negative
  else
    let (num, den) := fraction digits exponent
    ofFraction negative num den

/-- The number times a power of ten, where both the power and the product are rounded; for a power
below one it is divided by the inverse. -/
def scale (x : Binary64) (power : Int) : Binary64 :=
  match x, ofDecimal false 1 power.natAbs with
  | .finite negative m e, .finite _ p q =>
    let (num, den) := (m * Nat.pow 2 e.toNat, Nat.pow 2 (-e).toNat)
    let (top, bottom) := (p * Nat.pow 2 q.toNat, Nat.pow 2 (-q).toNat)
    if 0 ≤ power then ofFraction negative (num * top) (den * bottom)
    else ofFraction negative (num * bottom) (den * top)
  | x, _ => x

/-- A quotient without remainder is its own rounding. -/
theorem divNearest_of_dvd {num den : Nat} (whole : den ∣ num) :
    divNearest num den = num / den := by
  unfold divNearest
  rw [Nat.mod_eq_zero_of_dvd whole]
  by_cases positive : 0 < den
  · simp [positive]
  · simp [Nat.eq_zero_of_not_pos positive]

end Binary64

end HostBench
