/-
  Binary floating point numbers as decimals: the fewest digits that read back, the nearest of those,
  in one of two notations.
-/
import HostBench.Decimal.Binary64

namespace HostBench

/-- Which of two decimals is taken that are equally near. -/
inductive Tie where
  | up
  | toEven
  deriving DecidableEq

/-- How numbers are written. -/
structure DecimalStyle where
  tie : Tie
  /-- The places of the first digit, from the least to the greatest, with which a number is written
  in positional notation; units are place 0. All others are written with an exponent. -/
  positional : Option (Int × Int)

namespace Binary64

/-! ## Digits -/

/-- The decimal with `count` digits next below `num / den`, where `top` is the place of its first
digit, and the place of its last digit. -/
def gridPoint (num den count : Nat) (top : Int) : Nat × Int :=
  let place := top + 1 - count
  (num * Nat.pow 10 (-place).toNat / (den * Nat.pow 10 place.toNat), place)

/-- The place of the first digit of `num / den`, searched downwards from `top`. -/
def firstPlace (num den : Nat) : Nat → Int → Int
  | 0, top => top
  | fuel + 1, top =>
    if (gridPoint num den 1 top).1 = 0 then firstPlace num den fuel (top - 1) else top

/-- The neighbour `below` of `num / den` on the grid that ends at `place`, and the one above it, the
nearer one first. -/
def neighbours (tie : Tie) (num den below : Nat) (place : Int) : List Nat :=
  let (top, bottom) := fraction (2 * below + 1) place
  let belowFirst :=
    if num * 2 * bottom = top * den then tie = .toEven ∧ below % 2 = 0
    else num * 2 * bottom < top * den
  if belowFirst then [below, below + 1] else [below + 1, below]

/-- The fewest digits, starting from `count`, that read back as the given number, and the place of
the last one: of the two neighbours on the grid of `count` digits the nearer one that does, else one
digit more. -/
def fewestDigits (tie : Tie) (mantissa : Nat) (exponent : Int) (num den : Nat) (top : Int) :
    Nat → Nat → Nat × Int
  | 0, count => gridPoint num den count top
  | fuel + 1, count =>
    let (below, place) := gridPoint num den count top
    let reads := fun digits => ofDecimal false digits place == .finite false mantissa exponent
    match (neighbours tie num den below place).find? reads with
    | some digits => if digits = Nat.pow 10 count then (1, place + count) else (digits, place)
    | none => fewestDigits tie mantissa exponent num den top fuel (count + 1)

/-- The decimal of fewest digits that rounds to `mantissa · 2^exponent`, the nearest of those. -/
def shortest (tie : Tie) (mantissa : Nat) (exponent : Int) : Nat × Int :=
  if mantissa = 0 then (0, 0)
  else
    let num := mantissa * Nat.pow 2 exponent.toNat
    let den := Nat.pow 2 (-exponent).toNat
    fewestDigits tie mantissa exponent num den (firstPlace num den 700 309) 17 1

/-! ## Notations -/

/-- The decimal `digits · 10^place` in positional notation; a whole number ends in `.0`. -/
def positional (digits : Nat) (place : Int) : String :=
  let ds := Nat.toDigits 10 digits
  if 0 ≤ place then
    let zeros := if digits = 0 then 0 else place.toNat
    String.ofList (ds ++ List.replicate zeros '0' ++ ['.', '0'])
  else
    let places := (-place).toNat
    let ds := List.replicate (places + 1 - ds.length) '0' ++ ds
    String.ofList (ds.take (ds.length - places) ++ '.' :: ds.drop (ds.length - places))

/-- The decimal `digits · 10^place` with one digit before the point, if there is a point, and a
signed exponent. -/
def scientific (digits : Nat) (place : Int) : String :=
  let ds := Nat.toDigits 10 digits
  let rest := ds.drop 1
  let exponent := place + rest.length
  String.ofList (ds.take 1 ++ (if rest.isEmpty then [] else '.' :: rest)) ++
    (if exponent < 0 then "e-" else "e+") ++ Nat.repr exponent.natAbs

/-- The shortest text of a number in a style. -/
def text (style : DecimalStyle) : Binary64 → String
  | .nan => "NaN"
  | .infinite negative => if negative then "-inf" else "inf"
  | .finite negative mantissa exponent =>
    let (digits, place) := shortest style.tie mantissa exponent
    let first := place + (Nat.toDigits 10 digits).length - 1
    let written :=
      if style.positional.all fun (least, greatest) => decide (least ≤ first ∧ first ≤ greatest) then
        positional digits place
      else scientific digits place
    (if negative then "-" else "") ++ written

/-! ## Laws -/

/-- The nearer neighbour of a number comes first whatever is done about ties. -/
theorem neighbours_of_lt {tie : Tie} {num den below : Nat} {place : Int}
    (nearer : num * 2 * (fraction (2 * below + 1) place).2 <
      (fraction (2 * below + 1) place).1 * den) :
    neighbours tie num den below place = [below, below + 1] := by
  unfold neighbours
  simp [Nat.ne_of_lt nearer, nearer]

/-- Of two neighbours that are equally near the greater one comes first where ties go up. -/
theorem neighbours_up_of_eq {num den below : Nat} {place : Int}
    (half : num * 2 * (fraction (2 * below + 1) place).2 =
      (fraction (2 * below + 1) place).1 * den) :
    neighbours .up num den below place = [below + 1, below] := by
  unfold neighbours
  simp [half]

end Binary64

end HostBench
