/-
  Reading JSON text. Strings hold Unicode text only, so that half of a surrogate pair is refused, and
  arrays and objects nest to a fixed depth at most. Main statement: text is read from what is written
  for it (`stringBody_flatMap_escaped`).
-/
import HostBench.Json.Number

namespace HostBench.Json

/-- The characters after the blanks. -/
def skipBlanks (s : List Char) : List Char :=
  s.dropWhile fun c => c == ' ' || c == '\n' || c == '\r' || c == '\t'

/-! ## Strings -/

/-- The character that a one-letter escape stands for. -/
def escape? : Char → Option Char
  | '"' => some '"'
  | '\\' => some '\\'
  | '/' => some '/'
  | 'b' => some '\x08'
  | 'f' => some '\x0c'
  | 'n' => some '\n'
  | 'r' => some '\r'
  | 't' => some '\t'
  | _ => none

/-- The first half of a surrogate pair. -/
def isLeading (n : Nat) : Bool := 0xd800 ≤ n && n < 0xdc00

/-- The second half of a surrogate pair. -/
def isTrailing (n : Nat) : Bool := 0xdc00 ≤ n && n < 0xe000

/-- The character of a surrogate pair. -/
def pairChar (leading trailing : Nat) : Char :=
  Char.ofNat (0x10000 + (leading - 0xd800) * 0x400 + (trailing - 0xdc00))

/-- The character that four hexadecimal digits number, or eight of them as a surrogate pair. -/
def unicode? : List Char → Option Char
  | [a, b, c, d] => do
    let n ← Text.hexNumber? [a, b, c, d]
    if isLeading n || isTrailing n then none else some (Char.ofNat n)
  | [a, b, c, d, e, f, g, h] => do
    let leading ← Text.hexNumber? [a, b, c, d]
    let trailing ← Text.hexNumber? [e, f, g, h]
    if isLeading leading && isTrailing trailing then some (pairChar leading trailing) else none
  | _ => none

/-- Puts a character in front of what was read, if there is such a character. -/
def Reading.cons (c : Option Char) (r : Reading (List Char)) : Reading (List Char) :=
  c.bind fun c => r.map fun (cs, rest) => (c :: cs, rest)

/-- Two escapes that start with this digit make a surrogate pair. -/
def startsPair (a b : Char) : Bool :=
  (a == 'd' || a == 'D') && (Text.hexValue? b).any (fun n => 8 ≤ n && n < 12)

/-- The inside of a string up to its closing quote. -/
def stringBody : List Char → Reading (List Char)
  | [] => none
  | '"' :: rest => some ([], rest)
  | '\\' :: 'u' :: a :: b :: c :: d :: rest =>
    match startsPair a b, rest with
    | true, '\\' :: 'u' :: e :: f :: g :: h :: rest =>
      .cons (unicode? [a, b, c, d, e, f, g, h]) (stringBody rest)
    | _, rest => .cons (unicode? [a, b, c, d]) (stringBody rest)
  | '\\' :: e :: rest => .cons (escape? e) (stringBody rest)
  | c :: rest => if c.toNat < 0x20 || c == '\\' then none else .cons c (stringBody rest)

/-- A string after its opening quote. -/
def string? (s : List Char) : Reading String :=
  (stringBody s).map fun (cs, rest) => (String.ofList cs, rest)

/-- A control character is read from its escape. -/
theorem unicode?_hexDigit {n : Nat} (small : n < 0x20) :
    unicode? ['0', '0', Text.hexDigit (n / 16), Text.hexDigit n] = some (Char.ofNat n) :=
  (by decide : ∀ m : Fin 0x20, unicode? ['0', '0', Text.hexDigit (m / 16), Text.hexDigit m] =
    some (Char.ofNat m)) ⟨n, small⟩

/-- A character is read from what is written for it. -/
theorem stringBody_escaped (c : Char) (rest : List Char) :
    stringBody (escaped c ++ rest) = .cons (some c) (stringBody rest) := by
  unfold escaped
  split
  · rfl
  · rfl
  · rfl
  · rfl
  · rfl
  · rfl
  · rfl
  · next quote backslash _ _ _ _ _ =>
    split
    · next control =>
      have read := unicode?_hexDigit control
      rw [Char.ofNat_toNat] at read
      rw [← read]
      rfl
    · next plain =>
      rw [List.singleton_append, stringBody]
      · simp only [plain, beq_iff_eq, Bool.or_eq_true, decide_false, Bool.false_eq_true, false_or]
        exact if_neg backslash
      all_goals simp_all

/-- Text is read from what is written for it. -/
theorem stringBody_flatMap_escaped (s rest : List Char) :
    stringBody (s.flatMap escaped ++ '"' :: rest) = some (s, rest) := by
  induction s with
  | nil => rfl
  | cons c s ih =>
    rw [List.flatMap_cons, List.append_assoc, stringBody_escaped, ih]
    rfl

/-! ## Values -/

/-- The items of an array, at least one, up to its closing bracket; `fuel` bounds their number. -/
def items? (item : List Char → Reading Json) : Nat → List Char → Option (List Json × List Char)
  | 0, _ => none
  | fuel + 1, s => do
    let (v, rest) ← item (skipBlanks s)
    match skipBlanks rest with
    | ']' :: rest => some ([v], rest)
    | ',' :: rest =>
      let (vs, rest) ← items? item fuel rest
      some (v :: vs, rest)
    | _ => none

/-- An entry of an object. -/
def entry? (item : List Char → Reading Json) (s : List Char) :
    Option ((String × Json) × List Char) :=
  match s with
  | '"' :: rest => do
    let (key, rest) ← string? rest
    match skipBlanks rest with
    | ':' :: rest => (item (skipBlanks rest)).map fun (v, rest) => ((key, v), rest)
    | _ => none
  | _ => none

/-- The entries of an object, at least one, up to its closing brace; `fuel` bounds their number. -/
def entries? (item : List Char → Reading Json) :
    Nat → List Char → Option (List (String × Json) × List Char)
  | 0, _ => none
  | fuel + 1, s => do
    let (e, rest) ← entry? item (skipBlanks s)
    match skipBlanks rest with
    | '}' :: rest => some ([e], rest)
    | ',' :: rest =>
      let (es, rest) ← entries? item fuel rest
      some (e :: es, rest)
    | _ => none

/-- An array after its opening bracket. -/
def array? (item : List Char → Reading Json) (fuel : Nat) (s : List Char) : Reading Json :=
  match skipBlanks s with
  | ']' :: rest => some (.array [], rest)
  | s => (items? item fuel s).map fun (vs, rest) => (.array vs, rest)

/-- An object after its opening brace. -/
def object? (item : List Char → Reading Json) (fuel : Nat) (s : List Char) : Reading Json :=
  match skipBlanks s with
  | '}' :: rest => some (.object [], rest)
  | s => (entries? item fuel s).map fun (es, rest) => (.ofEntries es, rest)

/-- A value in which arrays and objects nest to at most `depth`, and none has more than `fuel` items
or entries. -/
def value? (fuel : Nat) : Nat → List Char → Reading Json
  | _, 'n' :: 'u' :: 'l' :: 'l' :: rest => some (.null, rest)
  | _, 't' :: 'r' :: 'u' :: 'e' :: rest => some (.bool true, rest)
  | _, 'f' :: 'a' :: 'l' :: 's' :: 'e' :: rest => some (.bool false, rest)
  | _, '"' :: rest => (string? rest).map fun (t, rest) => (.string t, rest)
  | depth + 1, '[' :: rest => array? (value? fuel depth) fuel rest
  | depth + 1, '{' :: rest => object? (value? fuel depth) fuel rest
  | _, s => number? s

/-- How deep arrays and objects may nest. -/
def depthLimit : Nat := 127

/-- The value that a text writes. No array in it has more items than the text has characters. -/
def ofText? (text : String) : Option Json := do
  let (v, rest) ← value? text.length depthLimit (skipBlanks text.toList)
  if (skipBlanks rest).isEmpty then some v else none

end HostBench.Json
