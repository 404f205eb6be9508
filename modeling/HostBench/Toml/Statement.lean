/-
  The statements of a TOML document: entries, table headers and empty lines, with the values of
  entries.
-/
import HostBench.Toml.Moment
import HostBench.Toml.Table

namespace HostBench.Toml

/-- Arrays and inline tables nest, and keys have parts, to fewer than this number. -/
def nestingLimit : Nat := 80

/-! ## Keys -/

/-- A character of a key without quotes. -/
def isBareChar (c : Char) : Bool := c.isAlphanum || c == '-' || c == '_'

/-- One part of a key. -/
def keyPart? (s : List Char) : Reading String :=
  match s with
  | '"' :: _ => lineString? s
  | '\'' :: _ => lineString? s
  | s => if (s.takeWhile isBareChar).isEmpty then none
    else some (String.ofList (s.takeWhile isBareChar), s.dropWhile isBareChar)

/-- The parts of a key, joined by points; `fuel` bounds their number. -/
def keyParts? : Nat → List Char → Reading (List String)
  | 0, _ => none
  | fuel + 1, s =>
    match keyPart? (skipSpace s) with
    | none => none
    | some (part, rest) =>
      match skipSpace rest with
      | '.' :: rest => (keyParts? fuel rest).map fun (parts, rest) => (part :: parts, rest)
      | rest => some ([part], rest)

/-- A key with the blanks around it. -/
def key? (s : List Char) : Reading (List String) := keyParts? (nestingLimit - 1) s

/-! ## Values -/

/-- A character of a number, a date or a truth value. -/
def isWordChar (c : Char) : Bool :=
  c.isAlphanum || c == '+' || c == '-' || c == '_' || c == '.' || c == ':'

/-- The value that a word writes. -/
def wordValue? (w : List Char) : Option Value :=
  if w = ['t', 'r', 'u', 'e'] then some (.boolean true)
  else if w = ['f', 'a', 'l', 's', 'e'] then some (.boolean false)
  else if isDate w || isTime w then some .moment
  else match integer? w with
    | some n => some (.integer n)
    | none => (float? w).map .float

/-- What is left after a time of day that follows a date after one blank. -/
def afterSpacedTime? (w rest : List Char) : Option (List Char) :=
  match rest with
  | ' ' :: rest =>
    if isBareDate w && isZonedTime (rest.takeWhile isWordChar) then
      some (rest.dropWhile isWordChar)
    else none
  | _ => none

/-- A number, a date or a truth value. -/
def plainValue? (s : List Char) : Reading Value :=
  let w := s.takeWhile isWordChar
  let rest := s.dropWhile isWordChar
  match afterSpacedTime? w rest with
  | some rest => some (.moment, rest)
  | none => (wordValue? w).map fun v => (v, rest)

/-- What is left after blanks, comments and line feeds between the items of an array; `fuel` bounds
the number of lines. -/
def skipLines : Nat → List Char → List Char
  | 0, s => s
  | fuel + 1, s =>
    match newline? (skipComment (skipSpace s)) with
    | some rest => skipLines fuel rest
    | none => skipSpace s

/-- The items of an array after its opening bracket or a comma; `fuel` bounds their number. -/
def arrayItems? (item : List Char → Reading Value) : Nat → List Char → Reading (List Value)
  | 0, _ => none
  | fuel + 1, s =>
    match skipLines s.length s with
    | ']' :: rest => some ([], rest)
    | s =>
      match item s with
      | none => none
      | some (v, rest) =>
        match skipLines rest.length rest with
        | ']' :: rest => some ([v], rest)
        | ',' :: rest => (arrayItems? item fuel rest).map fun (vs, rest) => (v :: vs, rest)
        | _ => none

/-- An entry: a key, an equals sign and a value. -/
def pair? (item : List Char → Reading Value) (s : List Char) : Reading (List String × Value) :=
  match key? s with
  | some (path, '=' :: rest) => (item (skipSpace rest)).map fun (v, rest) => ((path, v), rest)
  | _ => none

/-- The entries of an inline table from its first one on; `fuel` bounds their number. -/
def inlineEntries? (item : List Char → Reading Value) :
    Nat → List Char → Reading (List (List String × Value))
  | 0, _ => none
  | fuel + 1, s =>
    match pair? item s with
    | none => none
    | some (e, rest) =>
      match skipSpace rest with
      | '}' :: rest => some ([e], rest)
      | ',' :: rest => (inlineEntries? item fuel rest).map fun (es, rest) => (e :: es, rest)
      | _ => none

/-- The table of the entries of an inline table. -/
def inlineTable? (es : List (List String × Value)) : Option Value :=
  (es.foldlM (fun (t : Table) e => t.insert e.1 e.2) Table.empty).map fun t =>
    .table t.toEntries

/-- A value in which arrays and inline tables nest to at most `depth`. -/
def value? : Nat → List Char → Reading Value
  | _, '"' :: rest => (string? ('"' :: rest)).map fun (t, rest) => (.string t, rest)
  | _, '\'' :: rest => (string? ('\'' :: rest)).map fun (t, rest) => (.string t, rest)
  | depth + 1, '[' :: rest =>
    (arrayItems? (value? depth) (rest.length + 1) rest).map fun (vs, rest) => (.array vs, rest)
  | depth + 1, '{' :: rest =>
    match skipSpace rest with
    | '}' :: rest => some (.table [], rest)
    | inside =>
      match inlineEntries? (value? depth) (inside.length + 1) inside with
      | some (es, rest) => (inlineTable? es).map fun v => (v, rest)
      | none => none
  | _, s => plainValue? s

/-! ## Statements -/

/-- A line of a document that says something. -/
inductive Statement where
  /-- A key and its value. -/
  | entry (path : List String) (v : Value)
  /-- The header of a table. -/
  | table (path : List String)
  /-- The header of one more table of an array. -/
  | element (path : List String)

/-- A header between brackets. -/
def header? (s : List Char) : Reading Statement :=
  match s with
  | '[' :: '[' :: rest =>
    match key? rest with
    | some (path, ']' :: ']' :: rest) => some (.element path, rest)
    | _ => none
  | '[' :: rest =>
    match key? rest with
    | some (path, ']' :: rest) => some (.table path, rest)
    | _ => none
  | _ => none

/-- A statement without the end of its line. -/
def statement? (s : List Char) : Reading Statement :=
  match s with
  | '[' :: _ => header? s
  | s => (pair? (value? (nestingLimit - 1)) s).map fun (e, rest) => (.entry e.1 e.2, rest)

/-- The statements of the lines; `fuel` bounds their number. -/
def lines? : Nat → List Char → Option (List Statement)
  | 0, s => if s.isEmpty then some [] else none
  | fuel + 1, s =>
    match skipComment (skipSpace s) with
    | [] => some []
    | rest =>
      match newline? rest with
      | some rest => lines? fuel rest
      | none =>
        match statement? (skipSpace s) with
        | none => none
        | some (st, rest) =>
          match lineEnd? rest with
          | none => none
          | some rest => (lines? fuel rest).map (st :: ·)

/-- The statements of a text. -/
def statements? (s : List Char) : Option (List Statement) := lines? (s.length + 1) s

end HostBench.Toml
