/-
  JSON values. Whole numbers and floating point numbers are kept apart, and the entries of an
  object are in ascending order of their keys, each key once.
-/
import HostBench.Decimal.Shortest
import HostBench.Text.Hex

namespace HostBench

/-- A JSON value. -/
inductive Json where
  | null
  | bool (b : Bool)
  | int (n : Int)
  | float (x : Binary64)
  | string (s : String)
  | array (items : List Json)
  | object (entries : List (String × Json))

namespace Json

instance : Inhabited Json := ⟨.null⟩

/-- Puts an entry in its place by key; an entry with the same key is replaced. -/
def insertEntry (key : String) (v : Json) : List (String × Json) → List (String × Json)
  | [] => [(key, v)]
  | (k, w) :: rest =>
    if key < k then (key, v) :: (k, w) :: rest
    else if key = k then (key, v) :: rest
    else (k, w) :: insertEntry key v rest

/-- The object of the entries, of which the last one of a key counts. -/
def ofEntries (entries : List (String × Json)) : Json :=
  .object (entries.foldl (fun sorted e => insertEntry e.1 e.2 sorted) [])

/-- Numbers from a hundred thousandth up to below ten to the sixteenth are written in positional
notation, and a tie goes to the even digit. -/
def numberStyle : DecimalStyle := ⟨.toEven, some (-5, 15)⟩

/-- One character inside a JSON string. -/
def escaped (c : Char) : List Char :=
  match c with
  | '"' => ['\\', '"']
  | '\\' => ['\\', '\\']
  | '\n' => ['\\', 'n']
  | '\r' => ['\\', 'r']
  | '\t' => ['\\', 't']
  | '\x08' => ['\\', 'b']
  | '\x0c' => ['\\', 'f']
  | c =>
    if c.toNat < 0x20 then ['\\', 'u', '0', '0', Text.hexDigit (c.toNat / 16), Text.hexDigit c.toNat] else [c]

/-- A JSON string with its quotes. -/
def stringText (s : String) : String := String.ofList ('"' :: s.toList.flatMap escaped ++ ['"'])

mutual

/-- The value as JSON text without blanks. -/
def compact : Json → String
  | .null => "null"
  | .bool b => if b then "true" else "false"
  | .int n => toString n
  | .float x => match x with
    | .finite .. => x.text numberStyle
    | _ => "null"
  | .string s => stringText s
  | .array items => "[" ++ ",".intercalate (compactItems items) ++ "]"
  | .object entries => "\x7b" ++ ",".intercalate (compactEntries entries) ++ "\x7d"

/-- The items of an array as texts. -/
def compactItems : List Json → List String
  | [] => []
  | v :: rest => compact v :: compactItems rest

/-- The entries of an object as texts. -/
def compactEntries : List (String × Json) → List String
  | [] => []
  | (key, v) :: rest => (stringText key ++ ":" ++ compact v) :: compactEntries rest

end

end Json

end HostBench
