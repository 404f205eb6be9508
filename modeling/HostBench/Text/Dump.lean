/-
  Structured debug output: a tree of records, tuples and lists over plain texts, written on one
  line or over indented lines.
-/
import HostBench.Text.Quoted

namespace HostBench

/-- What a value shows of itself when it is dumped. -/
inductive Dump where
  /-- A text that stands as it is. -/
  | text (s : String)
  /-- A named value with named fields. -/
  | record (name : String) (fields : List (String × Dump))
  /-- A named value with one unnamed part. -/
  | wrapped (name : String) (part : Dump)
  /-- A sequence. -/
  | list (items : List Dump)

namespace Dump

/-- A string, quoted. -/
def string (s : String) : Dump := .text (Text.quoted s)

/-- A number in decimal digits. -/
def nat (n : Nat) : Dump := .text (Nat.repr n)

/-- A truth value. -/
def bool (b : Bool) : Dump := .text (if b then "true" else "false")

/-- A value that may be missing. -/
def option : Option Dump → Dump
  | none => .text "None"
  | some d => .wrapped "Some" d

mutual

/-- The dump on one line. -/
def line : Dump → String
  | .text s => s
  | .record name fields => name ++ " \x7b " ++ ", ".intercalate (fieldLines fields) ++ " \x7d"
  | .wrapped name part => name ++ "(" ++ line part ++ ")"
  | .list items => "[" ++ ", ".intercalate (itemLines items) ++ "]"

/-- The fields of a record, each on one line. -/
def fieldLines : List (String × Dump) → List String
  | [] => []
  | (name, d) :: rest => (name ++ ": " ++ line d) :: fieldLines rest

/-- The items of a sequence, each on one line. -/
def itemLines : List Dump → List String
  | [] => []
  | d :: rest => line d :: itemLines rest

end

/-- The beginning of a line at depth `n`. -/
def indent (n : Nat) : String := String.ofList (List.replicate (4 * n) ' ')

mutual

/-- The dump over several lines, from depth `n` on; every part stands on lines of its own and ends
in a comma. -/
def block (n : Nat) : Dump → String
  | .text s => s
  | .record name fields => name ++ " \x7b\n" ++ fieldBlocks (n + 1) fields ++ indent n ++ "\x7d"
  | .wrapped name part =>
    name ++ "(\n" ++ indent (n + 1) ++ block (n + 1) part ++ ",\n" ++ indent n ++ ")"
  | .list [] => "[]"
  | .list items => "[\n" ++ itemBlocks (n + 1) items ++ indent n ++ "]"

/-- The fields of a record at depth `n`. -/
def fieldBlocks (n : Nat) : List (String × Dump) → String
  | [] => ""
  | (name, d) :: rest => indent n ++ name ++ ": " ++ block n d ++ ",\n" ++ fieldBlocks n rest

/-- The items of a sequence at depth `n`. -/
def itemBlocks (n : Nat) : List Dump → String
  | [] => ""
  | d :: rest => indent n ++ block n d ++ ",\n" ++ itemBlocks n rest

end

/-- The dump as text, over several lines if `pretty`. -/
def render (pretty : Bool) (d : Dump) : String := if pretty then block 0 d else line d

end Dump


end HostBench
