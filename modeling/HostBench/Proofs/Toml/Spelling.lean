/-
  How strings and whole numbers are spelled in a TOML document. A character of a basic string stands
  for itself, or it is written behind a backslash: with a letter, or with four or eight hexadecimal
  digits (`SpellsChar`). A whole number is written with its decimal digits (`SpellsValue`).

  The reader takes every spelling for what it spells: one character (`basicBody_spelled`), a string
  (`string?_spelled`), a number (`wordValue?_toDigits`), and so a value before the end of its line
  (`value?_spelled`). Every string has a spelling (`exists_spellsText`).
-/
import Mathlib.Algebra.Ring.Nat
import Mathlib.Data.List.Basic
import HostBench.Toml.Statement

namespace HostBench.Toml

/-! ## Hexadecimal digits -/

/-- The hexadecimal digits in small letters. -/
def smallDigits : List Char :=
  ['0', '1', '2', '3', '4', '5', '6', '7', '8', '9', 'a', 'b', 'c', 'd', 'e', 'f']

/-- The hexadecimal digits in capitals. -/
def capitalDigits : List Char :=
  ['0', '1', '2', '3', '4', '5', '6', '7', '8', '9', 'A', 'B', 'C', 'D', 'E', 'F']

/-- A hexadecimal digit of the value `k`. -/
def IsHexDigit (k : Nat) (d : Char) : Prop :=
  smallDigits[k]? = some d ∨ capitalDigits[k]? = some d

/-- Hexadecimal digits that write a number. -/
inductive Hex : Nat → List Char → Prop where
  | nil : Hex 0 []
  | snoc {n k : Nat} {ds : List Char} {d : Char} (front : Hex n ds) (last : IsHexDigit k d) :
    Hex (16 * n + k) (ds ++ [d])

theorem hexValue?_of_isHexDigit {k : Nat} {d : Char} (h : IsHexDigit k d) :
    Text.hexValue? d = some k := by
  have small : k < 16 := by
    rcases h with h | h
    · exact (List.getElem?_eq_some_iff.mp h).1
    · exact (List.getElem?_eq_some_iff.mp h).1
  have table : ∀ k : Fin 16, smallDigits[k.val]?.bind Text.hexValue? = some k.val ∧
      capitalDigits[k.val]?.bind Text.hexValue? = some k.val := by decide
  rcases h with h | h
  · have value := (table ⟨k, small⟩).1
    rw [h] at value
    exact value
  · have value := (table ⟨k, small⟩).2
    rw [h] at value
    exact value

/-- Digits are read as the number that they write. -/
theorem hexNumber?_of_hex {n : Nat} {ds : List Char} (h : Hex n ds) :
    Text.hexNumber? ds = some n := by
  unfold Text.hexNumber?
  induction h with
  | nil => rfl
  | snoc _ last ih =>
    rw [List.foldlM_append, ih]
    simp [hexValue?_of_isHexDigit last]

theorem hexChar?_of_hex {c : Char} {ds : List Char} (h : Hex c.toNat ds) :
    hexChar? ds = some c := by
  unfold hexChar?
  have valid : c.toNat.isValidChar := c.valid
  rw [hexNumber?_of_hex h]
  simp only [Option.bind_eq_bind, Option.bind_some, if_pos valid, Char.ofNat_toNat]

/-- Every number is written by as many digits as it needs, and by more. -/
theorem exists_hex (width : Nat) {n : Nat} (fits : n < 16 ^ width) :
    ∃ ds, Hex n ds ∧ ds.length = width := by
  induction width generalizing n with
  | zero =>
    have none : n = 0 := by omega
    subst none
    exact ⟨[], .nil, rfl⟩
  | succ width ih =>
    have front : n / 16 < 16 ^ width := by
      rw [Nat.pow_succ] at fits
      omega
    obtain ⟨ds, written, length⟩ := ih front
    have small : n % 16 < smallDigits.length := Nat.mod_lt _ (by decide)
    have last : IsHexDigit (n % 16) smallDigits[n % 16] := .inl (List.getElem?_eq_getElem small)
    have whole := written.snoc last
    rw [Nat.div_add_mod] at whole
    exact ⟨_, whole, by simp [length]⟩

/-! ## Strings -/

/-- The letters that stand behind a backslash, and what they stand for. -/
def letters : List (Char × Char) :=
  [('b', '\x08'), ('t', '\t'), ('n', '\n'), ('f', '\x0c'), ('r', '\r'), ('"', '"'), ('\\', '\\')]

/-- How a character is written in a basic string. All but the printable characters of ASCII, and of
these the quote and the backslash, are escaped in one of three ways. -/
inductive SpellsChar (c : Char) : List Char → Prop where
  /-- The character stands for itself. -/
  | itself (printable : 0x20 ≤ c.toNat ∧ c.toNat ≤ 0x7e) (quote : c ≠ '"')
    (backslash : c ≠ '\\') : SpellsChar c [c]
  /-- A letter stands for it. -/
  | letter {e : Char} (known : (e, c) ∈ letters) : SpellsChar c ['\\', e]
  /-- Four digits number it. -/
  | short {ds : List Char} (digits : Hex c.toNat ds) (four : ds.length = 4) :
    SpellsChar c ('\\' :: 'u' :: ds)
  /-- Eight digits number it. -/
  | long {ds : List Char} (digits : Hex c.toNat ds) (eight : ds.length = 8) :
    SpellsChar c ('\\' :: 'U' :: ds)

/-- How text is written in a basic string. -/
inductive SpellsText : List Char → List Char → Prop where
  | nil : SpellsText [] []
  | cons {c : Char} {w cs ws : List Char} (first : SpellsChar c w) (others : SpellsText cs ws) :
    SpellsText (c :: cs) (w ++ ws)

/-- A character is read from every spelling of it. -/
theorem basicBody_spelled {c : Char} {w : List Char} (h : SpellsChar c w) (rest : List Char) :
    basicBody (w ++ rest) = .cons c (basicBody rest) := by
  cases h with
  | itself printable quote backslash =>
    have plain : isStringChar c = true := by
      unfold isStringChar
      simp only [Bool.or_eq_true, Bool.and_eq_true, decide_eq_true_eq, bne_iff_ne]
      omega
    rw [List.singleton_append, basicBody]
    · simp [plain, backslash]
    all_goals simp_all
  | letter known =>
    simp only [letters, List.mem_cons, Prod.mk.injEq, List.not_mem_nil, or_false] at known
    rcases known with ⟨rfl, rfl⟩ | ⟨rfl, rfl⟩ | ⟨rfl, rfl⟩ | ⟨rfl, rfl⟩ | ⟨rfl, rfl⟩ | ⟨rfl, rfl⟩ |
      ⟨rfl, rfl⟩ <;> rfl
  | @short ds digits four =>
    match ds, digits, four with
    | [_, _, _, _], digits, _ =>
      show Reading.consEscape (hexChar? _) (basicBody rest) = _
      rw [hexChar?_of_hex digits]
      rfl
  | @long ds digits eight =>
    match ds, digits, eight with
    | [_, _, _, _, _, _, _, _], digits, _ =>
      show Reading.consEscape (hexChar? _) (basicBody rest) = _
      rw [hexChar?_of_hex digits]
      rfl

/-- Text is read from every spelling of it. -/
theorem basicBody_spelledText {cs w : List Char} (h : SpellsText cs w) (rest : List Char) :
    basicBody (w ++ '"' :: rest) = some (cs, rest) := by
  induction h with
  | nil => rfl
  | cons first _ ih =>
    rw [List.append_assoc, basicBody_spelled first, ih]
    rfl

/-- No spelling of a character begins with a quote. -/
theorem SpellsChar.head_ne {c : Char} {w : List Char} (h : SpellsChar c w) :
    ∃ d t, w = d :: t ∧ d ≠ '"' := by
  cases h with
  | itself _ quote _ => exact ⟨c, [], rfl, quote⟩
  | letter _ => exact ⟨_, _, rfl, by decide⟩
  | short _ _ => exact ⟨_, _, rfl, by decide⟩
  | long _ _ => exact ⟨_, _, rfl, by decide⟩

/-- A string on one line is read from every spelling of it. The quote that follows an empty one would
be taken for the beginning of several lines. -/
theorem string?_spelled {cs w rest : List Char} (h : SpellsText cs w)
    (follows : rest.head? ≠ some '"') :
    string? ('"' :: (w ++ '"' :: rest)) = some (String.ofList cs, rest) := by
  have read := basicBody_spelledText h rest
  have single : string? ('"' :: (w ++ '"' :: rest)) = (basicBody (w ++ '"' :: rest)).string := by
    cases h with
    | nil =>
      cases rest with
      | nil => rfl
      | cons d rest =>
        unfold string?
        split
        · next heq => simp_all
        · next heq => simp at heq
        · rfl
    | cons first _ =>
      obtain ⟨d, t, rfl, other⟩ := first.head_ne
      unfold string?
      split
      · next heq => simp_all
      · next heq => simp at heq
      · rfl
  rw [single, read]
  rfl

theorem exists_spellsChar (c : Char) : ∃ w, SpellsChar c w := by
  have fits : c.toNat < 16 ^ 8 := c.val.toNat_lt
  obtain ⟨ds, digits, eight⟩ := exists_hex 8 fits
  exact ⟨_, .long digits eight⟩

/-- Every text has a spelling. -/
theorem exists_spellsText (cs : List Char) : ∃ w, SpellsText cs w := by
  induction cs with
  | nil => exact ⟨[], .nil⟩
  | cons c cs ih =>
    obtain ⟨w, first⟩ := exists_spellsChar c
    obtain ⟨ws, others⟩ := ih
    exact ⟨w ++ ws, .cons first others⟩

/-! ## Whole numbers -/

section Digits

variable {w : List Char}

theorem isWordChar_of_isDigit {c : Char} (h : c.isDigit = true) : isWordChar c = true := by
  simp [isWordChar, Char.isAlphanum, h]

theorem hexValue?_of_isDigit {c : Char} (h : c.isDigit = true) :
    Text.hexValue? c = some (c.toNat - '0'.toNat) := by
  have between : 48 ≤ c.val ∧ c.val ≤ 57 := by simpa [Char.isDigit] using h
  unfold Text.hexValue?
  exact if_pos between

/-- A word of digits is no date. -/
theorem afterDate?_digits (digits : ∀ c ∈ w, c.isDigit = true) : afterDate? w = none := by
  unfold afterDate?
  split
  · exact absurd (digits '-' (by simp)) (by decide)
  · rfl

/-- A word of digits is no time of day. -/
theorem afterTime?_digits (digits : ∀ c ∈ w, c.isDigit = true) : afterTime? w = none := by
  unfold afterTime?
  split
  · exact absurd (digits ':' (by simp)) (by decide)
  · rfl

/-- A word of digits has no underscores. -/
theorem digitGroup?_digits (nonempty : w ≠ []) (digits : ∀ c ∈ w, c.isDigit = true) :
    digitGroup? Char.isDigit w = some w := by
  fun_induction digitGroup? Char.isDigit w with
  | case1 => exact absurd rfl nonempty
  | case2 => rfl
  | case3 c no => exact absurd (digits c (by simp)) no
  | case4 => exact absurd (digits '_' (by simp)) (by decide)
  | case5 => exact absurd (digits '_' (by simp)) (by decide)
  | case6 c rest more _ _ ih =>
    have others : ∀ d ∈ rest, d.isDigit = true := fun d hd => digits d (List.mem_cons_of_mem c hd)
    rw [ih (by rintro rfl; exact more rfl) others]
    rfl
  | case7 c rest _ _ no => exact absurd (digits c (by simp)) no

/-- A word of digits has no sign. -/
theorem signed_digits (digits : ∀ c ∈ w, c.isDigit = true) : signed w = (false, w) := by
  unfold signed
  split
  · exact absurd (digits '-' (by simp)) (by decide)
  · exact absurd (digits '+' (by simp)) (by decide)
  · rfl

end Digits

theorem isDigit_toDigits (n : Nat) : ∀ c ∈ Nat.toDigits 10 n, c.isDigit = true :=
  fun _ hc => Nat.isDigit_of_mem_toDigits (by decide) (by decide) hc

/-- Only zero is written with a zero in front. -/
theorem eq_zero_of_toDigits {n : Nat} {t : List Char} (h : Nat.toDigits 10 n = '0' :: t) : n = 0 := by
  induction n using Nat.strongRecOn generalizing t with
  | ind n ih =>
    by_cases small : n < 10
    · rw [Nat.toDigits_of_lt_base small] at h
      have table : ∀ k : Fin 10, k.val.digitChar = '0' → k.val = 0 := by decide
      exact table ⟨n, small⟩ (List.cons.inj h).1
    · rw [Nat.toDigits_of_base_le (by decide) (by omega)] at h
      cases front : Nat.toDigits 10 (n / 10) with
      | nil => exact absurd front Nat.toDigits_ne_nil
      | cons d ds =>
        rw [front] at h
        have zero : n / 10 = 0 := ih (n / 10) (by omega) (front.trans (by rw [(List.cons.inj h).1]))
        omega

theorem wholeDigits?_toDigits (n : Nat) :
    wholeDigits? (Nat.toDigits 10 n) = some (Nat.toDigits 10 n) := by
  unfold wholeDigits?
  split
  · next heq => rw [heq]
  · next t no heq =>
    rw [eq_zero_of_toDigits heq] at heq
    exact absurd (List.cons.inj heq).2.symm no
  · exact digitGroup?_digits Nat.toDigits_ne_nil (isDigit_toDigits n)

/-- The digits of a number are read as the number. -/
theorem numberOf_toDigits (n : Nat) : numberOf 10 (Nat.toDigits 10 n) = n := by
  have values : numberOf 10 (Nat.toDigits 10 n) = Nat.ofDigitChars 10 (Nat.toDigits 10 n) 0 := by
    unfold numberOf Nat.ofDigitChars
    apply List.foldl_ext
    intro m c hc
    rw [hexValue?_of_isDigit (isDigit_toDigits n c hc)]
    rfl
  rw [values, Nat.ofDigitChars_toDigits (by decide) (by decide)]

/-- The greatest whole number of a document. -/
abbrev greatestInteger : Nat := 9223372036854775807

theorem word?_natCast {n : Nat} (fits : n ≤ greatestInteger) : word? n = some (n : Int) := by
  have bound : n ≤ 9223372036854775807 := fits
  unfold word?
  rw [if_pos (by omega)]

theorem integer?_toDigits {n : Nat} (fits : n ≤ greatestInteger) :
    integer? (Nat.toDigits 10 n) = some (n : Int) := by
  have digits := isDigit_toDigits n
  unfold integer?
  split
  · next heq => exact absurd (digits 'x' (by simp [heq])) (by decide)
  · next heq => exact absurd (digits 'o' (by simp [heq])) (by decide)
  · next heq => exact absurd (digits 'b' (by simp [heq])) (by decide)
  · rw [signed_digits digits]
    show (wholeDigits? (Nat.toDigits 10 n)).bind _ = _
    rw [wholeDigits?_toDigits, Option.bind_some]
    show word? (numberOf 10 (Nat.toDigits 10 n)) = _
    rw [numberOf_toDigits, word?_natCast fits]

/-- A word of the digits of a number is the number. -/
theorem wordValue?_toDigits {n : Nat} (fits : n ≤ greatestInteger) :
    wordValue? (Nat.toDigits 10 n) = some (.integer n) := by
  have digits := isDigit_toDigits n
  have isTrue : Nat.toDigits 10 n ≠ ['t', 'r', 'u', 'e'] := by
    intro h
    exact absurd (digits 't' (by simp [h])) (by decide)
  have isFalse : Nat.toDigits 10 n ≠ ['f', 'a', 'l', 's', 'e'] := by
    intro h
    exact absurd (digits 'f' (by simp [h])) (by decide)
  have moment : (isDate (Nat.toDigits 10 n) || isTime (Nat.toDigits 10 n)) = false := by
    unfold isDate isTime
    rw [afterDate?_digits digits, afterTime?_digits digits]
    rfl
  unfold wordValue?
  rw [if_neg isTrue, if_neg isFalse, moment, integer?_toDigits fits]
  rfl

/-! ## Values -/

section Words

variable {p : Char → Bool} {w rest : List Char}

/-- A word goes up to the first character that cannot belong to it. -/
theorem takeWhile_word (inside : ∀ d ∈ w, p d = true) (stop : ∀ c ∈ rest.head?, p c = false) :
    (w ++ rest).takeWhile p = w := by
  rw [List.takeWhile_append_of_pos inside]
  cases rest with
  | nil => exact List.append_nil w
  | cons c t => rw [List.takeWhile_cons_of_neg (by simp [stop c rfl]), List.append_nil]

theorem dropWhile_word (inside : ∀ d ∈ w, p d = true) (stop : ∀ c ∈ rest.head?, p c = false) :
    (w ++ rest).dropWhile p = rest := by
  rw [List.dropWhile_append_of_pos inside]
  cases rest with
  | nil => rfl
  | cons c t => exact List.dropWhile_cons_of_neg (by simp [stop c rfl])

end Words

/-- How a value is written: a string between quotes, a whole number with its digits. -/
inductive SpellsValue : Value → List Char → Prop where
  | string {cs w : List Char} (text : SpellsText cs w) :
    SpellsValue (.string (String.ofList cs)) ('"' :: (w ++ ['"']))
  | integer {n : Nat} (fits : n ≤ greatestInteger) : SpellsValue (.integer n) (Nat.toDigits 10 n)

/-- A blank or the end of a line comes next, or nothing at all. -/
def ComesToEnd (s : List Char) : Prop :=
  ∀ c ∈ s.head?, isSpace c = true ∨ c = '\r' ∨ c = '\n'

theorem ComesToEnd.not_wordChar {s : List Char} (ends : ComesToEnd s) :
    ∀ c ∈ s.head?, isWordChar c = false := by
  intro c hc
  rcases ends c hc with h | rfl | rfl
  · simp only [isSpace, Bool.or_eq_true, beq_iff_eq] at h
    rcases h with rfl | rfl <;> decide
  · decide
  · decide

/-- A number is read from its digits. -/
theorem plainValue?_toDigits {n : Nat} {rest : List Char} (fits : n ≤ greatestInteger)
    (ends : ComesToEnd rest) :
    plainValue? (Nat.toDigits 10 n ++ rest) = some (.integer n, rest) := by
  have digits := isDigit_toDigits n
  have word : ∀ d ∈ Nat.toDigits 10 n, isWordChar d = true :=
    fun d hd => isWordChar_of_isDigit (digits d hd)
  have other := ends.not_wordChar
  have noTime : afterSpacedTime? (Nat.toDigits 10 n) rest = none := by
    unfold afterSpacedTime? isBareDate
    rw [afterDate?_digits digits]
    split <;> rfl
  unfold plainValue?
  simp only [takeWhile_word word other, dropWhile_word word other, noTime,
    wordValue?_toDigits fits, Option.map_some]

/-- A value is read from every spelling of it. -/
theorem value?_spelled {v : Value} {w rest : List Char} (h : SpellsValue v w)
    (ends : ComesToEnd rest) (depth : Nat) : value? depth (w ++ rest) = some (v, rest) := by
  cases h with
  | @string cs w text =>
    have follows : rest.head? ≠ some '"' := fun quote => absurd (ends '"' quote) (by decide)
    have read := string?_spelled text follows
    have shape : '"' :: (w ++ ['"']) ++ rest = '"' :: (w ++ '"' :: rest) := by simp
    rw [shape, value?, read]
    rfl
  | @integer n fits =>
    have read := plainValue?_toDigits fits ends
    have digits := isDigit_toDigits n
    cases written : Nat.toDigits 10 n with
    | nil => exact absurd written Nat.toDigits_ne_nil
    | cons d ds =>
      rw [written] at read digits
      have digit : d.isDigit = true := digits d (by simp)
      have other : ∀ c : Char, c.isDigit = false → d ≠ c := by
        rintro c no rfl
        exact absurd digit (by simp [no])
      rw [← read, List.cons_append, value?]
      · exact fun _ h => other '"' (by decide) (List.cons.inj h).1
      · exact fun _ h => other '\'' (by decide) (List.cons.inj h).1
      · exact fun _ _ _ h => other '[' (by decide) (List.cons.inj h).1
      · exact fun _ _ _ h => other '{' (by decide) (List.cons.inj h).1

end HostBench.Toml
