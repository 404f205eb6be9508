/-
  Text in double quotes, the way debug output shows it: five control characters, the quote and the
  backslash have an escape of their own, and every other hidden character is written by number.
-/
import HostBench.Text.Hidden

namespace HostBench.Text

/-- One character inside the quotes. -/
def escaped (c : Char) : List Char :=
  match c with
  | '\x00' => ['\\', '0']
  | '\t' => ['\\', 't']
  | '\r' => ['\\', 'r']
  | '\n' => ['\\', 'n']
  | '"' => ['\\', '"']
  | '\\' => ['\\', '\\']
  | c =>
    if isHidden c then ['\\', 'u', '{'] ++ Nat.toDigits 16 c.toNat ++ ['}'] else [c]

/-- The text between double quotes, escaped. -/
def quoted (s : String) : String := String.ofList ('"' :: s.toList.flatMap escaped ++ ['"'])

end HostBench.Text
