/-
  Documents that consist of lines with a bare key and a value each. Such a line may be indented, and may
  have blanks around its equals sign and after its value (`Layout`). It ends with a line feed, with or
  without a carriage return before it, or with the document (`EndsLine`).

  One line is read as its entry (`statement?_line`), and so the lines are read one after the other
  (`lines?_spelled`). Keys that differ make a table of the entries in their order
  (`foldlM_add_statements`). Together: a document whose lines have different keys is read as its entries
  (`document?_spelled`).
-/
import HostBench.Proofs.Toml.Spelling
import HostBench.Toml.Document

namespace HostBench.Toml

variable {key w rest : List Char} {v : Value}

/-! ## One line -/

/-- Blanks and nothing else. -/
def Blank (g : List Char) : Prop := ∀ c ∈ g, isSpace c = true

theorem skipSpace_blank {g : List Char} (blank : Blank g) (s : List Char) :
    skipSpace (g ++ s) = skipSpace s := List.dropWhile_append_of_pos blank

theorem skipSpace_cons {c : Char} (h : isSpace c = false) (t : List Char) :
    skipSpace (c :: t) = c :: t := List.dropWhile_cons_of_neg (by simp [h])

/-- What a line has besides its key, its value and its end: blanks in four places. -/
structure Layout where
  indent : List Char
  before : List Char
  after : List Char
  trail : List Char
  blank_indent : Blank indent
  blank_before : Blank before
  blank_after : Blank after
  blank_trail : Blank trail

namespace Layout

/-- A line with a key and a value, up to its end. -/
def line (l : Layout) (key value : List Char) : List Char :=
  l.indent ++ key ++ l.before ++ '=' :: l.after ++ value ++ l.trail

/-- A line with a blank on both sides of its equals sign. -/
def spaced : Layout where
  indent := []
  before := [' ']
  after := [' ']
  trail := []
  blank_indent := by simp [Blank]
  blank_before := by simp [Blank, isSpace]
  blank_after := by simp [Blank, isSpace]
  blank_trail := by simp [Blank]

theorem line_append (l : Layout) (key value tail : List Char) :
    l.line key value ++ tail =
      l.indent ++ (key ++ (l.before ++ '=' :: (l.after ++ (value ++ (l.trail ++ tail))))) := by
  simp [line]

theorem length_line_pos (l : Layout) (key value : List Char) : 0 < (l.line key value).length := by
  simp only [line, List.length_append, List.length_cons]
  omega

end Layout

/-- A line comes to its end, and behind it there is the rest. -/
inductive EndsLine : List Char → List Char → Prop where
  | feed (rest : List Char) : EndsLine ('\n' :: rest) rest
  | returnFeed (rest : List Char) : EndsLine ('\r' :: '\n' :: rest) rest
  /-- The document ends, too. -/
  | document : EndsLine [] []

namespace EndsLine

variable {tail : List Char}

theorem length_le (ends : EndsLine tail rest) : rest.length ≤ tail.length := by
  cases ends <;> simp only [List.length_cons, List.length_nil] <;> omega

/-- What follows the value of a line is blanks and the end of the line. -/
theorem lineEnd?_trail (ends : EndsLine tail rest) (l : Layout) :
    lineEnd? (l.trail ++ tail) = some rest := by
  unfold lineEnd?
  rw [skipSpace_blank l.blank_trail]
  cases ends <;> rfl

theorem comesToEnd_trail (ends : EndsLine tail rest) (l : Layout) : ComesToEnd (l.trail ++ tail) := by
  intro c hc
  cases trail : l.trail with
  | nil =>
    rw [trail] at hc
    cases ends with
    | feed => exact .inr (.inr (Option.some.inj hc).symm)
    | returnFeed => exact .inr (.inl (Option.some.inj hc).symm)
    | document => cases hc
  | cons d t =>
    rw [trail] at hc
    have first : d = c := Option.some.inj hc
    exact .inl (l.blank_trail c (by simp [trail, first]))

end EndsLine

/-- A key that needs no quotes. -/
structure BareKey (key : List Char) : Prop where
  nonempty : key ≠ []
  bare : ∀ c ∈ key, isBareChar c = true

/-- A key that needs no quotes begins like one. -/
theorem BareKey.head (h : BareKey key) : ∃ d ds, key = d :: ds ∧ isBareChar d = true := by
  cases key with
  | nil => exact absurd rfl h.nonempty
  | cons d ds => exact ⟨d, ds, rfl, h.bare d (by simp)⟩

theorem ne_of_bare {c d : Char} (bare : isBareChar d = true) (other : isBareChar c = false) :
    d ≠ c := by
  rintro rfl
  simp [bare] at other

/-- What begins with a key begins with none of the characters that keys do not have. -/
theorem BareKey.ne_cons (h : BareKey key) {c : Char} (other : isBareChar c = false)
    (s t : List Char) : key ++ s ≠ c :: t := by
  obtain ⟨d, ds, rfl, first⟩ := h.head
  intro same
  exact ne_of_bare first other (List.cons.inj same).1

theorem isSpace_of_bare {d : Char} (bare : isBareChar d = true) : isSpace d = false := by
  have blank : d ≠ ' ' := ne_of_bare bare (by decide)
  have tab : d ≠ '\t' := ne_of_bare bare (by decide)
  simp [isSpace, blank, tab]

/-- There are no blanks to skip before a key. -/
theorem BareKey.skipSpace_append (h : BareKey key) (s : List Char) :
    skipSpace (key ++ s) = key ++ s := by
  obtain ⟨d, ds, rfl, first⟩ := h.head
  exact skipSpace_cons (isSpace_of_bare first) _

theorem not_bare_of_isSpace {c : Char} (h : isSpace c = true) : isBareChar c = false := by
  simp only [isSpace, Bool.or_eq_true, beq_iff_eq] at h
  rcases h with rfl | rfl <;> decide

/-- A key without quotes goes up to the first character that cannot belong to it. -/
theorem keyPart?_bare (h : BareKey key) {c : Char} (stop : isBareChar c = false) (t : List Char) :
    keyPart? (key ++ c :: t) = some (String.ofList key, c :: t) := by
  have nonempty : key.isEmpty = false := List.isEmpty_eq_false_iff.mpr h.nonempty
  have ends : ∀ d ∈ (c :: t).head?, isBareChar d = false := by
    intro d hd
    cases hd
    exact stop
  unfold keyPart?
  split
  · next heq => exact absurd heq (h.ne_cons (by decide) _ _)
  · next heq => exact absurd heq (h.ne_cons (by decide) _ _)
  · rw [takeWhile_word h.bare ends, dropWhile_word h.bare ends, nonempty]
    rfl

/-- A key without quotes is read up to the equals sign. -/
theorem key?_bare (h : BareKey key) {g : List Char} (blank : Blank g) (t : List Char) :
    key? (key ++ (g ++ '=' :: t)) = some ([String.ofList key], '=' :: t) := by
  have part : keyPart? (key ++ (g ++ '=' :: t)) = some (String.ofList key, g ++ '=' :: t) := by
    cases g with
    | nil => exact keyPart?_bare h (by decide) t
    | cons c g =>
      have stop : isBareChar c = false := not_bare_of_isSpace (blank c (by simp))
      exact keyPart?_bare h stop _
  have sign : skipSpace (g ++ '=' :: t) = '=' :: t := by
    rw [skipSpace_blank blank]
    rfl
  unfold key?
  show keyParts? (78 + 1) _ = _
  rw [keyParts?, h.skipSpace_append, part]
  simp only [sign]
  rfl

/-- No value begins with a blank. -/
theorem SpellsValue.head (h : SpellsValue v w) : ∃ d t, w = d :: t ∧ isSpace d = false := by
  cases h with
  | string _ => exact ⟨'"', _, rfl, by decide⟩
  | @integer n _ =>
    cases written : Nat.toDigits 10 n with
    | nil => exact absurd written Nat.toDigits_ne_nil
    | cons d ds =>
      have digit : d.isDigit = true := isDigit_toDigits n d (by simp [written])
      exact ⟨d, ds, rfl, isSpace_of_bare (by simp [isBareChar, Char.isAlphanum, digit])⟩

/-- A key and a value with an equals sign between them are an entry. -/
theorem statement?_line (bare : BareKey key) (value : SpellsValue v w) {g g' : List Char}
    (before : Blank g) (after : Blank g') (ends : ComesToEnd rest) :
    statement? (key ++ (g ++ '=' :: (g' ++ (w ++ rest)))) =
      some (.entry [String.ofList key] v, rest) := by
  have read : pair? (value? (nestingLimit - 1)) (key ++ (g ++ '=' :: (g' ++ (w ++ rest)))) =
      some (([String.ofList key], v), rest) := by
    have begins : skipSpace (g' ++ (w ++ rest)) = w ++ rest := by
      obtain ⟨d, t, rfl, other⟩ := value.head
      rw [skipSpace_blank after]
      exact skipSpace_cons other _
    unfold pair?
    rw [key?_bare bare before]
    simp only [begins, value?_spelled value ends, Option.map_some]
  unfold statement?
  split
  · next heq => exact absurd heq (bare.ne_cons (by decide) _ _)
  · rw [read]
    rfl

/-- **A line is read as its entry**, and the reader goes on behind it. -/
theorem lines?_line (bare : BareKey key) (value : SpellsValue v w) (l : Layout) {tail : List Char}
    (ends : EndsLine tail rest) (fuel : Nat) :
    lines? (fuel + 1) (l.line key w ++ tail) =
      (lines? fuel rest).map (.entry [String.ofList key] v :: ·) := by
  have read := statement?_line bare value l.blank_before l.blank_after (ends.comesToEnd_trail l)
  have left := ends.lineEnd?_trail l
  rw [l.line_append]
  have noComment : ∀ t, skipComment (key ++ t) = key ++ t := by
    intro t
    unfold skipComment
    split
    · next heq => exact absurd heq (bare.ne_cons (by decide) _ _)
    · rfl
  have noNewline : ∀ t, newline? (key ++ t) = none := by
    intro t
    unfold newline?
    split
    · next heq => exact absurd heq (bare.ne_cons (by decide) _ _)
    · next heq => exact absurd heq (bare.ne_cons (by decide) _ _)
    · rfl
  rw [lines?, skipSpace_blank l.blank_indent, bare.skipSpace_append, noComment]
  split
  · next heq => exact absurd (List.append_eq_nil_iff.mp heq).1 bare.nonempty
  · simp only [noNewline, read, left]

/-! ## All lines -/

/-- Lines with a key and a value each, and what they say. -/
inductive SpellsLines : List (String × Value) → List Char → Prop where
  | nil : SpellsLines [] []
  | cons {key w tail rest : List Char} {v : Value} {es : List (String × Value)} (bare : BareKey key)
    (value : SpellsValue v w) (l : Layout) (ends : EndsLine tail rest)
    (others : SpellsLines es rest) : SpellsLines ((String.ofList key, v) :: es) (l.line key w ++ tail)

/-- Whatever has keys without quotes and values with a spelling can be written. -/
theorem exists_spellsLines {es : List (String × Value)}
    (writable : ∀ e ∈ es, BareKey e.1.toList ∧ ∃ w, SpellsValue e.2 w) : ∃ s, SpellsLines es s := by
  induction es with
  | nil => exact ⟨[], .nil⟩
  | cons e es ih =>
    obtain ⟨bare, w, value⟩ := writable e (by simp)
    obtain ⟨rest, others⟩ := ih fun e' he' => writable e' (List.mem_cons_of_mem e he')
    have written := SpellsLines.cons bare value .spaced (.feed rest) others
    rw [String.ofList_toList] at written
    exact ⟨_, written⟩

/-- The statements that say nothing but these entries. -/
def statementsOf (es : List (String × Value)) : List Statement :=
  es.map fun e => .entry [e.1] e.2

/-- The reader takes every line for its entry, one after the other. -/
theorem lines?_spelled {es : List (String × Value)} {s : List Char} (h : SpellsLines es s)
    (fuel : Nat) (enough : s.length ≤ fuel) : lines? fuel s = some (statementsOf es) := by
  induction h generalizing fuel with
  | nil => cases fuel <;> rfl
  | @cons key w tail rest v es bare value l ends _ ih =>
    have nonempty := l.length_line_pos key w
    have shorter := ends.length_le
    rw [List.length_append] at enough
    cases fuel with
    | zero => omega
    | succ fuel =>
      rw [lines?_line bare value l ends, ih fuel (by omega)]
      rfl

/-- Lines begin with a blank or with a key, so with no byte order mark. -/
theorem dropMark_spelled {es : List (String × Value)} {s : List Char} (h : SpellsLines es s) :
    dropMark s = s := by
  cases h with
  | nil => rfl
  | @cons key w tail rest v es bare value l ends others =>
    rw [l.line_append]
    unfold dropMark
    split
    · next heq =>
      exfalso
      cases indent : l.indent with
      | nil =>
        rw [indent] at heq
        exact bare.ne_cons (by decide) _ _ heq
      | cons c t =>
        have space : isSpace c = true := l.blank_indent c (by simp [indent])
        rw [indent] at heq
        rw [(List.cons.inj heq).1] at space
        exact absurd space (by decide)
    · rfl

/-! ## The table of the entries -/

/-- A document that has no tables, and these entries so far. -/
def Draft.flat (es : List (String × Value)) : Draft :=
  ⟨.empty, .mk false false (es.map fun e => (e.1, .value e.2)), [], false⟩

theorem entryValues_map (es : List (String × Value)) :
    entryValues (es.map fun e => (e.1, .value e.2)) = es := by
  induction es with
  | nil => rfl
  | cons e es ih =>
    rw [List.map_cons, entryValues, ih]
    rfl

/-- A new key comes last in the table. -/
theorem add_flat {es : List (String × Value)} {name : String} (fresh : name ∉ es.map Prod.fst)
    (v : Value) : (Draft.flat es).add (.entry [name] v) = some (.flat (es ++ [(name, v)])) := by
  have absent : (es.map fun e => (e.1, Node.value e.2)).any (·.1 == name) = false := by
    rw [List.any_eq_false]
    intro e he
    obtain ⟨a, ha, rfl⟩ := List.mem_map.mp he
    have other : a.1 ≠ name := by
      rintro rfl
      exact fresh (List.mem_map_of_mem ha)
    simp [other]
  have put : (Table.mk false false (es.map fun e => (e.1, Node.value e.2))).put name (.value v) =
      .mk false false ((es ++ [(name, v)]).map fun e => (e.1, Node.value e.2)) := by
    unfold Table.put
    simp only [Table.entries, absent]
    rw [List.map_append]
    rfl
  have inserted : (Table.mk false false (es.map fun e => (e.1, Node.value e.2))).insert [name] v =
      some (.mk false false ((es ++ [(name, v)]).map fun e => (e.1, Node.value e.2))) := by
    rw [← put]
    show (if (es.map fun e => (e.1, Node.value e.2)).any (·.1 == name) then none else some _) = _
    rw [absent]
    rfl
  show Option.map _ ((Table.mk false false _).insert [name] v) = _
  rw [inserted]
  rfl

/-- Keys that differ make a table of the entries in their order. -/
theorem foldlM_add_statements (es : List (String × Value)) (before : List (String × Value))
    (distinct : ((before ++ es).map Prod.fst).Nodup) :
    (statementsOf es).foldlM Draft.add (.flat before) = some (.flat (before ++ es)) := by
  induction es generalizing before with
  | nil => simp [statementsOf]
  | cons e es ih =>
    have fresh : e.1 ∉ before.map Prod.fst := by
      intro again
      rw [List.map_append, List.nodup_append] at distinct
      exact distinct.2.2 _ again _ (by simp) rfl
    have shifted : before ++ e :: es = (before ++ [e]) ++ es := by simp
    rw [shifted] at distinct ⊢
    show ((Draft.flat before).add (.entry [e.1] e.2)).bind _ = _
    rw [add_flat fresh, Option.bind_some]
    exact ih (before ++ [e]) distinct

/-- **A document is read as what its lines say**, if their keys differ. -/
theorem document?_spelled {es : List (String × Value)} {text : String}
    (h : SpellsLines es text.toList) (distinct : (es.map Prod.fst).Nodup) :
    document? text = some es := by
  have statements : statements? (dropMark text.toList) = some (statementsOf es) := by
    rw [dropMark_spelled h]
    exact lines?_spelled h _ (Nat.le_succ _)
  have built := foldlM_add_statements es [] distinct
  have closed : (Draft.flat es).close =
      some (.mk false false (es.map fun e => (e.1, .value e.2))) := rfl
  unfold document?
  rw [statements, Option.bind_eq_bind, Option.bind_some]
  show ((statementsOf es).foldlM Draft.add (.flat [])).bind _ = _
  rw [built, Option.bind_some, List.nil_append, closed]
  exact congrArg some (entryValues_map es)

end HostBench.Toml
