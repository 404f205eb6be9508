/-
  Reading JSON numbers. A whole number that a signed or an unsigned 64-bit word holds stays whole.
  Every other number is rounded twice: its digits, of which those count that such a word holds, are
  rounded first, and then their product with the power of ten.
-/
import HostBench.Json.Basic

namespace HostBench.Json

/-- What a reader returns: what it read and the characters that it left. -/
abbrev Reading (α : Type) := Option (α × List Char)

/-! ## Digits -/

/-- The first number that no unsigned 64-bit word holds. -/
def wordBound : Nat := 18446744073709551616

/-- A number with one more digit at its end. -/
def appended (n : Nat) (c : Char) : Nat := 10 * n + (c.toNat - '0'.toNat)

/-- Appends digits to a number as long as a word holds it: the number, how many digits were
appended, and how many were not. -/
def appendDigits (n : Nat) : List Char → Nat × Nat × Nat
  | [] => (n, 0, 0)
  | c :: rest =>
    if appended n c < wordBound then
      let (m, taken, left) := appendDigits (appended n c) rest
      (m, taken + 1, left)
    else (n, 0, rest.length + 1)

/-- Some digits, at least one. -/
def digits? (s : List Char) : Reading (List Char) :=
  if (s.takeWhile Char.isDigit).isEmpty then none
  else some (s.takeWhile Char.isDigit, s.dropWhile Char.isDigit)

/-- The digits before the point, which begin with zero only if that is all of them. -/
def wholeDigits? (s : List Char) : Reading (List Char) :=
  match digits? s with
  | some ('0' :: _ :: _, _) => none
  | r => r

/-- The digits after the point, if there is one. -/
def fraction? : List Char → Reading (Option (List Char))
  | '.' :: rest => (digits? rest).map fun (ds, rest) => (some ds, rest)
  | s => some (none, s)

/-- A sign, which may be missing: whether it is a minus. -/
def signed : List Char → Bool × List Char
  | '-' :: rest => (true, rest)
  | '+' :: rest => (false, rest)
  | s => (false, s)

/-- The exponent, if there is one. -/
def exponent? : List Char → Reading (Option Int)
  | [] => some (none, [])
  | c :: rest =>
    if c = 'e' ∨ c = 'E' then
      let (negative, rest) := signed rest
      (digits? rest).map fun (ds, rest) =>
        let n := ds.foldl appended 0
        (some (if negative then -(n : Int) else n), rest)
    else some (none, c :: rest)

/-! ## Values -/

/-- The greatest power of ten that a number is multiplied with or divided by at once. -/
def greatestPower : Nat := 308

/-- The number `n · 10^exponent`, unless it is too large. A number that takes more than two
divisions is too small to tell from zero after them. -/
def float? (negative : Bool) (n : Nat) (exponent : Int) : Option Binary64 :=
  let x := Binary64.ofFraction negative n 1
  if n = 0 then some x
  else if greatestPower < exponent then none
  else
    let beyond := -greatestPower - exponent
    let scaled :=
      if beyond ≤ 0 then x.scale exponent
      else (x.scale (-greatestPower)).scale (-min beyond greatestPower)
    match scaled with
    | .finite .. => some scaled
    | _ => none

/-- A whole number, or the floating point number next to it. Zero with a minus is no whole number. -/
def whole? (negative : Bool) (digits : List Char) : Option Json :=
  let (n, _, left) := appendDigits 0 digits
  if left = 0 ∧ !negative then some (.int n)
  else if left = 0 ∧ 0 < n ∧ n ≤ wordBound / 2 then some (.int (-n))
  else (float? negative n left).map .float

/-- A number with a point or an exponent. -/
def fractional? (negative : Bool) (digits fraction : List Char) (exponent : Int) : Option Json :=
  let (n, _, left) := appendDigits 0 digits
  let (n, taken, _) := appendDigits n fraction
  (float? negative n (left - taken + exponent)).map .float

/-- A number. -/
def number? (s : List Char) : Option (Json × List Char) := do
  let (negative, s) := match s with
    | '-' :: rest => (true, rest)
    | s => (false, s)
  let (digits, s) ← wholeDigits? s
  let (fraction, s) ← fraction? s
  let (exponent, s) ← exponent? s
  let v ← match fraction, exponent with
    | none, none => whole? negative digits
    | fraction, exponent => fractional? negative digits (fraction.getD []) (exponent.getD 0)
  return (v, s)

/-! ## Laws -/

/-- No digit gets lost. -/
theorem appendDigits_count (n : Nat) (digits : List Char) :
    (appendDigits n digits).2.1 + (appendDigits n digits).2.2 = digits.length := by
  induction digits generalizing n with
  | nil => rfl
  | cons c rest ih =>
    by_cases fits : appended n c < wordBound
    · have rest := ih (appended n c)
      simp only [appendDigits, fits, ↓reduceIte, List.length_cons] at rest ⊢
      rw [Nat.add_right_comm, rest]
    · simp [appendDigits, fits]

/-- A word holds what the digits make. -/
theorem appendDigits_lt {n : Nat} (digits : List Char) (small : n < wordBound) :
    (appendDigits n digits).1 < wordBound := by
  induction digits generalizing n with
  | nil => exact small
  | cons c rest ih =>
    by_cases fits : appended n c < wordBound
    · simp only [appendDigits, fits, ↓reduceIte]
      exact ih fits
    · simpa [appendDigits, fits] using small

end HostBench.Json
