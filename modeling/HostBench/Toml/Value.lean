/-
  The values of a TOML document. Of a date or time only that it is one is kept; the entries of a
  table stand in document order.
-/
import HostBench.Decimal.Binary64

namespace HostBench.Toml

/-- A TOML value. -/
inductive Value where
  | string (s : String)
  | integer (n : Int)
  | float (x : Binary64)
  | boolean (b : Bool)
  | moment
  | array (items : List Value)
  | table (entries : List (String × Value))

/-- What a parser step returns: what it read and the characters that it left. -/
abbrev Reading (α : Type) := Option (α × List Char)

/-- A blank inside a line. -/
def isSpace (c : Char) : Bool := c == ' ' || c == '\t'

/-- The characters after the blanks. -/
def skipSpace (s : List Char) : List Char := s.dropWhile isSpace

/-- What is left after a line feed, with or without a carriage return before it. -/
def newline? : List Char → Option (List Char)
  | '\n' :: rest => some rest
  | '\r' :: '\n' :: rest => some rest
  | _ => none

/-- A character that may stand in a comment: a tab or anything but a control character. -/
def isCommentChar (c : Char) : Bool := c == '\t' || (0x20 ≤ c.toNat && c.toNat != 0x7f)

/-- What is left after a comment, if one begins here. -/
def skipComment : List Char → List Char
  | '#' :: rest => rest.dropWhile isCommentChar
  | s => s

/-- What is left after the end of a line: blanks, a comment, and a line feed or the end. -/
def lineEnd? (s : List Char) : Option (List Char) :=
  match skipComment (skipSpace s) with
  | [] => some []
  | s => newline? s

end HostBench.Toml
