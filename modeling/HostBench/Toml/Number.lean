/-
  TOML numbers, read from the whole word that writes them.
-/
import HostBench.Toml.Quoted

namespace HostBench.Toml

/-- The digits of a group without its underscores, each of which stands between two digits. -/
def digitGroup? (isDigit : Char → Bool) : List Char → Option (List Char)
  | [] => none
  | [c] => if isDigit c then some [c] else none
  | c :: '_' :: rest => if isDigit c then (digitGroup? isDigit rest).map (c :: ·) else none
  | c :: rest => if isDigit c then (digitGroup? isDigit rest).map (c :: ·) else none

/-- The number that digits write in a base. -/
def numberOf (base : Nat) (digits : List Char) : Nat :=
  digits.foldl (fun n c => base * n + (Text.hexValue? c).getD 0) 0

/-- A number in base 2, 8 or 16, after its letter. -/
def based? (base : Nat) (digits : List Char) : Option Nat :=
  (digitGroup? (fun c => (Text.hexValue? c).any (· < base)) digits).map (numberOf base)

/-- The digits of a whole decimal number, which begins with zero only if it is zero. -/
def wholeDigits? (s : List Char) : Option (List Char) :=
  match s with
  | ['0'] => some ['0']
  | '0' :: _ => none
  | s => digitGroup? Char.isDigit s

/-- Splits off a sign: whether it is a minus, and what follows it. -/
def signed : List Char → Bool × List Char
  | '-' :: rest => (true, rest)
  | '+' :: rest => (false, rest)
  | s => (false, s)

/-- The number, if a signed 64-bit word holds it. -/
def word? (n : Int) : Option Int :=
  if -9223372036854775808 ≤ n ∧ n < 9223372036854775808 then some n else none

/-- A whole number. -/
def integer? (s : List Char) : Option Int :=
  match s with
  | '0' :: 'x' :: digits => (based? 16 digits).bind (word? ·)
  | '0' :: 'o' :: digits => (based? 8 digits).bind (word? ·)
  | '0' :: 'b' :: digits => (based? 2 digits).bind (word? ·)
  | s =>
    let (negative, rest) := signed s
    (wholeDigits? rest).bind fun digits =>
      word? (if negative then -(numberOf 10 digits : Int) else numberOf 10 digits)

/-- The exponent of a floating point number, after its letter. -/
def exponent? (s : List Char) : Option Int :=
  let (negative, rest) := signed s
  (digitGroup? Char.isDigit rest).map fun digits =>
    if negative then -(numberOf 10 digits : Int) else numberOf 10 digits

/-- The fraction and exponent of a floating point number; one of them has to be there. -/
def fractionAndExponent? (s : List Char) : Option (List Char × Int) :=
  match s with
  | '.' :: rest =>
    let fraction := rest.takeWhile fun c => c != 'e' && c != 'E'
    (digitGroup? Char.isDigit fraction).bind fun digits =>
      match rest.dropWhile fun c => c != 'e' && c != 'E' with
      | [] => some (digits, 0)
      | _ :: power => (exponent? power).map (digits, ·)
  | c :: power => if c == 'e' || c == 'E' then (exponent? power).map ([], ·) else none
  | [] => none

/-- An infinity or no number. -/
def special? (negative : Bool) : List Char → Option Binary64
  | ['i', 'n', 'f'] => some (.infinite negative)
  | ['n', 'a', 'n'] => some .nan
  | _ => none

/-- A number too large above is refused, one too large below is the negative infinity. -/
def bounded? : Binary64 → Option Binary64
  | .infinite false => none
  | x => some x

/-- A floating point number. -/
def float? (s : List Char) : Option Binary64 :=
  let (negative, rest) := signed s
  match special? negative rest with
  | some x => some x
  | none => do
    let isWhole := fun c => c != '.' && c != 'e' && c != 'E'
    let whole ← wholeDigits? (rest.takeWhile isWhole)
    let (fraction, exponent) ← fractionAndExponent? (rest.dropWhile isWhole)
    bounded? (.ofDecimal negative (numberOf 10 (whole ++ fraction)) (exponent - fraction.length))

end HostBench.Toml
