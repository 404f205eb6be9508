/-
  TOML dates and times, read from the whole word that writes them.
-/
import HostBench.Toml.Number

namespace HostBench.Toml

/-- A number of two digits up to `last`. -/
def twoDigits? (last : Nat) (a b : Char) : Option Nat :=
  if a.isDigit && b.isDigit && numberOf 10 [a, b] ≤ last then some (numberOf 10 [a, b]) else none

/-- A year with a day more in February. -/
def isLeapYear (year : Nat) : Bool := year % 4 == 0 && (year % 100 != 0 || year % 400 == 0)

/-- The days of a month. -/
def daysIn (year month : Nat) : Nat :=
  if month = 2 then (if isLeapYear year then 29 else 28)
  else if month = 4 ∨ month = 6 ∨ month = 9 ∨ month = 11 then 30
  else 31

/-- What is left after a date that exists. -/
def afterDate? : List Char → Option (List Char)
  | a :: b :: c :: d :: '-' :: e :: f :: '-' :: g :: h :: rest => do
    let year := [a, b, c, d]
    let month ← twoDigits? 12 e f
    let day ← twoDigits? 31 g h
    if year.all Char.isDigit && 1 ≤ month && 1 ≤ day && day ≤ daysIn (numberOf 10 year) month then
      some rest
    else none
  | _ => none

/-- What is left after a time of day; a fraction of the second may have any number of digits. -/
def afterTime? : List Char → Option (List Char)
  | a :: b :: ':' :: c :: d :: ':' :: e :: f :: rest => do
    let _ ← twoDigits? 23 a b
    let _ ← twoDigits? 59 c d
    let _ ← twoDigits? 60 e f
    match rest with
    | '.' :: x :: rest => if x.isDigit then some (rest.dropWhile Char.isDigit) else none
    | rest => some rest
  | _ => none

/-- The word is nothing, or the distance from universal time. -/
def isOffset : List Char → Bool
  | [] => true
  | ['Z'] => true
  | ['z'] => true
  | [sign, a, b, ':', c, d] =>
    (sign == '+' || sign == '-') && (twoDigits? 23 a b).isSome && (twoDigits? 59 c d).isSome
  | _ => false

/-- The word is a time of day with or without an offset. -/
def isZonedTime (s : List Char) : Bool := (afterTime? s).any isOffset

/-- The word is a time of day. -/
def isTime (s : List Char) : Bool := (afterTime? s).any List.isEmpty

/-- The word is a date, or a date and a time in one word. -/
def isDate (s : List Char) : Bool :=
  match afterDate? s with
  | some [] => true
  | some (c :: rest) => (c == 'T' || c == 't') && isZonedTime rest
  | none => false

/-- The word is a date alone, to which a time may follow after one blank. -/
def isBareDate (s : List Char) : Bool := (afterDate? s).any List.isEmpty

end HostBench.Toml
