/-
  The four kinds of TOML strings: basic and literal, on one line or on several.
-/
import HostBench.Text.Hex
import HostBench.Toml.Value

namespace HostBench.Toml

/-- A character that stands for itself in every string: a tab or anything but a control character. -/
def isStringChar (c : Char) : Bool := c == '\t' || (0x20 ≤ c.toNat && c.toNat != 0x7f)

/-- The character that hexadecimal digits number. -/
def hexChar? (digits : List Char) : Option Char := do
  let n ← Text.hexNumber? digits
  if n.isValidChar then some (Char.ofNat n) else none

/-- The character that a one-letter escape stands for. -/
def escape? : Char → Option Char
  | 'b' => some '\x08'
  | 't' => some '\t'
  | 'n' => some '\n'
  | 'f' => some '\x0c'
  | 'r' => some '\r'
  | '"' => some '"'
  | '\\' => some '\\'
  | _ => none

/-- Puts a character in front of what was read. -/
def Reading.cons (c : Char) (r : Reading (List Char)) : Reading (List Char) :=
  r.map fun (cs, rest) => (c :: cs, rest)

/-- Puts the character of an escape in front of what was read, if there is such a character. -/
def Reading.consEscape (c : Option Char) (r : Reading (List Char)) : Reading (List Char) :=
  c.bind fun c => r.cons c

/-- The inside of a basic string up to its closing quote. -/
def basicBody : List Char → Reading (List Char)
  | [] => none
  | '"' :: rest => some ([], rest)
  | '\\' :: 'u' :: a :: b :: c :: d :: rest =>
    .consEscape (hexChar? [a, b, c, d]) (basicBody rest)
  | '\\' :: 'U' :: a :: b :: c :: d :: e :: f :: g :: h :: rest =>
    .consEscape (hexChar? [a, b, c, d, e, f, g, h]) (basicBody rest)
  | '\\' :: e :: rest => .consEscape (escape? e) (basicBody rest)
  | c :: rest => if isStringChar c && c != '\\' then .cons c (basicBody rest) else none

/-- The inside of a literal string up to its closing quote. -/
def literalBody : List Char → Reading (List Char)
  | [] => none
  | '\'' :: rest => some ([], rest)
  | c :: rest => if isStringChar c then .cons c (literalBody rest) else none

/-- Where the reader of a basic string on several lines stands. -/
inductive Fold where
  /-- In the text. -/
  | none
  /-- After a backslash at the end of a line, before the line feed. -/
  | opened
  /-- After that line feed, where blanks and line feeds are left out. -/
  | skipping
  deriving DecidableEq

/-- The inside of a basic string on several lines up to its three closing quotes, before which up
to two more quotes belong to the text. -/
def multiBasicBody : Fold → List Char → Reading (List Char)
  | _, [] => .none
  | .opened, c :: rest =>
    if isSpace c then multiBasicBody .opened rest
    else if c = '\n' then multiBasicBody .skipping rest
    else match c, rest with
      | '\r', '\n' :: rest => multiBasicBody .skipping rest
      | _, _ => .none
  | .skipping, ' ' :: rest => multiBasicBody .skipping rest
  | .skipping, '\t' :: rest => multiBasicBody .skipping rest
  | .skipping, '\n' :: rest => multiBasicBody .skipping rest
  | .skipping, '\r' :: '\n' :: rest => multiBasicBody .skipping rest
  | _, '"' :: '"' :: '"' :: '"' :: '"' :: rest => some (['"', '"'], rest)
  | _, '"' :: '"' :: '"' :: '"' :: rest => some (['"'], rest)
  | _, '"' :: '"' :: '"' :: rest => some ([], rest)
  | _, '\\' :: 'u' :: a :: b :: c :: d :: rest =>
    .consEscape (hexChar? [a, b, c, d]) (multiBasicBody .none rest)
  | _, '\\' :: 'U' :: a :: b :: c :: d :: e :: f :: g :: h :: rest =>
    .consEscape (hexChar? [a, b, c, d, e, f, g, h]) (multiBasicBody .none rest)
  | _, '\\' :: '\n' :: rest => multiBasicBody .skipping rest
  | _, '\\' :: '\r' :: '\n' :: rest => multiBasicBody .skipping rest
  | _, '\\' :: e :: rest =>
    if isSpace e then multiBasicBody .opened rest
    else .consEscape (escape? e) (multiBasicBody .none rest)
  | _, '\r' :: '\n' :: rest => .cons '\n' (multiBasicBody .none rest)
  | _, '\n' :: rest => .cons '\n' (multiBasicBody .none rest)
  | _, c :: rest => if isStringChar c && c != '\\' then .cons c (multiBasicBody .none rest) else .none

/-- The inside of a literal string on several lines up to its three closing quotes, before which up
to two more quotes belong to the text. -/
def multiLiteralBody : List Char → Reading (List Char)
  | [] => none
  | '\'' :: '\'' :: '\'' :: '\'' :: '\'' :: rest => some (['\'', '\''], rest)
  | '\'' :: '\'' :: '\'' :: '\'' :: rest => some (['\''], rest)
  | '\'' :: '\'' :: '\'' :: rest => some ([], rest)
  | '\r' :: '\n' :: rest => .cons '\n' (multiLiteralBody rest)
  | '\n' :: rest => .cons '\n' (multiLiteralBody rest)
  | c :: rest => if isStringChar c then .cons c (multiLiteralBody rest) else none

/-- What is left after a line feed that directly follows the opening quotes. -/
def dropFirstNewline (s : List Char) : List Char := (newline? s).getD s

/-- What was read, as a string. -/
def Reading.string (r : Reading (List Char)) : Reading String :=
  r.map fun (cs, rest) => (String.ofList cs, rest)

/-- A string on one line, as keys and values have it. -/
def lineString? : List Char → Reading String
  | '"' :: rest => (basicBody rest).string
  | '\'' :: rest => (literalBody rest).string
  | _ => none

/-- A string of any kind. -/
def string? : List Char → Reading String
  | '"' :: '"' :: '"' :: rest => Reading.string (multiBasicBody .none (dropFirstNewline rest))
  | '\'' :: '\'' :: '\'' :: rest => Reading.string (multiLiteralBody (dropFirstNewline rest))
  | s => lineString? s

end HostBench.Toml
