/-
  Settings in a document and back. A document says of some settings, in some order, what they are, one
  in each line (`entries`). Its reader takes them over one by one (`readEntry_entry`,
  `foldlM_readEntry`), whatever their order, and leaves the others as they are by default (`keeping`).
  The check then accepts settings that are all good, and otherwise refuses the first bad one
  (`validate_of_good`, `validate_of_firstBad`).
-/
import Mathlib.Data.List.Nodup
import HostBench.Proofs.Toml.Lines
import HostBench.Settings

namespace HostBench

open Toml (Value BareKey SpellsValue SpellsLines greatestInteger)

namespace Setting

/-- The key of a setting in a document. -/
def key : Setting → String
  | .hostName => "host_name"
  | .shutdownTimeout => "shutdown_timeout_ms"
  | .eventLogCapacity => "event_log_capacity"

/-- The place at which a setting is checked. -/
def place : Setting → Nat
  | .hostName => 0
  | .shutdownTimeout => 1
  | .eventLogCapacity => 2

theorem eq_of_key {x y : Setting} (h : x.key = y.key) : x = y := by
  cases x <;> cases y <;> first | rfl | exact absurd h (by decide)

theorem bareKey (x : Setting) : BareKey x.key.toList := by
  constructor
  · cases x <;> decide
  · rw [← List.all_eq_true]
    cases x <;> decide

end Setting

namespace Settings

variable {s b : Settings} {x : Setting} {order : List Setting}

/-! ## What is checked -/

/-- A setting has an allowed value: a name with a character that is not blank, a timeout of some
length, and a capacity of at least one record, if any. -/
def Good (s : Settings) : Setting → Prop
  | .hostName => ∃ c ∈ s.hostName.toList, Text.isBlank c = false
  | .shutdownTimeout => s.shutdownTimeout ≠ .zero
  | .eventLogCapacity => s.eventLogCapacity ≠ some 0

/-- A setting has no allowed value, but all that are checked before it have one. -/
def FirstBad (s : Settings) (bad : Setting) : Prop :=
  ¬ s.Good bad ∧ ∀ x : Setting, x.place < bad.place → s.Good x

theorem good_hostName : s.Good .hostName ↔ Text.allBlank s.hostName = false :=
  Text.allBlank_eq_false_iff.symm

theorem good_shutdownTimeout : s.Good .shutdownTimeout ↔ s.shutdownTimeout.isZero = false := by
  rw [← Bool.not_eq_true, Duration.isZero_iff]
  rfl

theorem good_eventLogCapacity :
    s.Good .eventLogCapacity ↔ (s.eventLogCapacity == some 0) = false := by
  rw [beq_eq_false_iff_ne]
  rfl

/-- Settings that are all good are accepted. -/
theorem validate_of_good (good : ∀ x, s.Good x) : s.validate = .ok s := by
  have none : s.badSetting? = none := by
    unfold badSetting?
    rw [good_hostName.mp (good _), good_shutdownTimeout.mp (good _),
      good_eventLogCapacity.mp (good _)]
    rfl
  exact validate_eq_ok_iff.mpr ⟨none, rfl⟩

/-- The first bad setting is the one that is refused. -/
theorem validate_of_firstBad {bad : Setting} (h : s.FirstBad bad) :
    s.validate = .error (.refused bad) := by
  obtain ⟨isBad, earlier⟩ := h
  have found : s.badSetting? = some bad := by
    unfold badSetting?
    cases bad with
    | hostName =>
      rw [good_hostName, Bool.not_eq_false] at isBad
      rw [isBad]
      rfl
    | shutdownTimeout =>
      have name := good_hostName.mp (earlier .hostName (by decide))
      rw [good_shutdownTimeout, Bool.not_eq_false] at isBad
      rw [name, isBad]
      rfl
    | eventLogCapacity =>
      have name := good_hostName.mp (earlier .hostName (by decide))
      have timeout := good_shutdownTimeout.mp (earlier .shutdownTimeout (by decide))
      rw [good_eventLogCapacity, Bool.not_eq_false] at isBad
      rw [name, timeout, isBad]
      rfl
  unfold validate
  rw [found]

/-! ## What a document says -/

/-- What a document says of a setting. It says nothing of a capacity that is not set. -/
def value? (s : Settings) : Setting → Option Value
  | .hostName => some (.string s.hostName)
  | .shutdownTimeout => some (.integer s.shutdownTimeout.toMillis)
  | .eventLogCapacity => s.eventLogCapacity.map fun n : Nat => .integer n

/-- The key of a setting and what is said of it. -/
def pair? (s : Settings) (x : Setting) : Option (String × Value) :=
  (s.value? x).map fun v => (x.key, v)

/-- The entries of settings in an order. -/
def entries (s : Settings) (order : List Setting) : List (String × Value) :=
  order.filterMap s.pair?

/-- A document can hold the settings: the timeout is a whole number of milliseconds, and no number is
too large. -/
structure Writable (s : Settings) : Prop where
  timeout : ∃ ms ≤ greatestInteger, s.shutdownTimeout.toNanos = ms * 1000000
  capacity : ∀ n ∈ s.eventLogCapacity, n ≤ greatestInteger

namespace Writable

theorem millis_le (h : s.Writable) : s.shutdownTimeout.toMillis ≤ greatestInteger := by
  obtain ⟨ms, fits, nanos⟩ := h.timeout
  have bound : ms ≤ 9223372036854775807 := fits
  unfold Duration.toMillis
  rw [nanos]
  omega

theorem ofMillis_toMillis (h : s.Writable) :
    Duration.ofMillis s.shutdownTimeout.toMillis = s.shutdownTimeout := by
  obtain ⟨ms, -, nanos⟩ := h.timeout
  have back : s.shutdownTimeout.toMillis * 1000000 = s.shutdownTimeout.toNanos := by
    unfold Duration.toMillis
    omega
  unfold Duration.ofMillis
  rw [back, Duration.ofNanos_toNanos]

theorem spelled (h : s.Writable) {v : Value} (said : s.value? x = some v) :
    ∃ w, SpellsValue v w := by
  cases x with
  | hostName =>
    cases said
    obtain ⟨w, text⟩ := Toml.exists_spellsText s.hostName.toList
    have value := SpellsValue.string text
    rw [String.ofList_toList] at value
    exact ⟨_, value⟩
  | shutdownTimeout =>
    cases said
    exact ⟨_, .integer h.millis_le⟩
  | eventLogCapacity =>
    obtain ⟨n, set, rfl⟩ := Option.map_eq_some_iff.mp said
    exact ⟨_, .integer (h.capacity n set)⟩

end Writable

theorem exists_document (writable : s.Writable) (order : List Setting) :
    ∃ text : String, SpellsLines (s.entries order) text.toList := by
  have each : ∀ e ∈ s.entries order, BareKey e.1.toList ∧ ∃ w, SpellsValue e.2 w := by
    intro e he
    obtain ⟨x, -, said⟩ := List.mem_filterMap.mp he
    obtain ⟨v, value, rfl⟩ := Option.map_eq_some_iff.mp said
    exact ⟨x.bareKey, writable.spelled value⟩
  obtain ⟨cs, written⟩ := Toml.exists_spellsLines each
  refine ⟨String.ofList cs, ?_⟩
  rw [String.toList_ofList]
  exact written

/-- Different settings have different keys. -/
theorem nodup_keys (once : order.Nodup) : ((s.entries order).map Prod.fst).Nodup := by
  unfold entries
  rw [List.map_filterMap]
  refine List.Nodup.filterMap (fun x y key hx hy => ?_) once
  simp only [pair?, Option.map_map, Option.mem_def, Option.map_eq_some_iff] at hx hy
  obtain ⟨_, _, rfl⟩ := hx
  obtain ⟨_, _, same⟩ := hy
  exact Setting.eq_of_key same.symm

/-! ## Reading it -/

/-- Takes over one setting from others, which may say nothing of it. -/
def adopt (b s : Settings) : Setting → Settings
  | .hostName => { b with hostName := s.hostName }
  | .shutdownTimeout => { b with shutdownTimeout := s.shutdownTimeout }
  | .eventLogCapacity => { b with eventLogCapacity := s.eventLogCapacity.or b.eventLogCapacity }

theorem readNat_integer (expected : String) (n : Nat) :
    readNat expected (.integer n) = .ok n := by
  simp [readNat]

/-- **An entry is taken over.** -/
theorem readEntry_entry (writable : s.Writable) {e : String × Value} (said : s.pair? x = some e) :
    readEntry b e = .ok (b.adopt s x) := by
  cases x with
  | hostName =>
    cases said
    rfl
  | shutdownTimeout =>
    cases said
    show readEntry b ("shutdown_timeout_ms", .integer s.shutdownTimeout.toMillis) = _
    rw [readEntry, readNat_integer]
    show Except.ok { b with shutdownTimeout := .ofMillis s.shutdownTimeout.toMillis } = _
    rw [writable.ofMillis_toMillis]
    rfl
  | eventLogCapacity =>
    obtain ⟨v, value, rfl⟩ := Option.map_eq_some_iff.mp said
    obtain ⟨n, set, rfl⟩ := Option.map_eq_some_iff.mp value
    show readEntry b ("event_log_capacity", .integer n) = _
    rw [readEntry, readNat_integer]
    unfold adopt
    rw [set]
    rfl

theorem adopt_of_unsaid (unsaid : s.pair? x = none) : b.adopt s x = b := by
  cases x with
  | hostName => cases unsaid
  | shutdownTimeout => cases unsaid
  | eventLogCapacity =>
    have unset : s.eventLogCapacity = none :=
      Option.map_eq_none_iff.mp (Option.map_eq_none_iff.mp unsaid)
    unfold adopt
    rw [unset]
    rfl

/-- All entries are taken over, in whatever order. -/
theorem foldlM_readEntry (writable : s.Writable) (order : List Setting) (b : Settings) :
    (s.entries order).foldlM readEntry b = .ok (order.foldl (fun b x => b.adopt s x) b) := by
  induction order generalizing b with
  | nil => rfl
  | cons x order ih =>
    cases said : s.pair? x with
    | none =>
      rw [List.foldl_cons, adopt_of_unsaid said, ← ih]
      unfold entries
      rw [List.filterMap_cons_none said]
    | some e =>
      rw [List.foldl_cons, ← ih]
      unfold entries
      rw [List.filterMap_cons_some said, List.foldlM_cons, readEntry_entry writable said]
      rfl

/-- The settings that a document speaks of, and the defaults of the others. -/
def keeping (s : Settings) (order : List Setting) : Settings where
  hostName := if .hostName ∈ order then s.hostName else default.hostName
  shutdownTimeout := if .shutdownTimeout ∈ order then s.shutdownTimeout else default.shutdownTimeout
  eventLogCapacity :=
    if .eventLogCapacity ∈ order then s.eventLogCapacity else default.eventLogCapacity

theorem foldl_adopt (order : List Setting) (b : Settings) :
    order.foldl (fun b x => b.adopt s x) b =
      ⟨if .hostName ∈ order then s.hostName else b.hostName,
        if .shutdownTimeout ∈ order then s.shutdownTimeout else b.shutdownTimeout,
        if .eventLogCapacity ∈ order then s.eventLogCapacity.or b.eventLogCapacity
          else b.eventLogCapacity⟩ := by
  induction order generalizing b with
  | nil => simp
  | cons x order ih =>
    rw [List.foldl_cons, ih]
    cases x with
    | hostName => simp [adopt]
    | shutdownTimeout => simp [adopt]
    | eventLogCapacity =>
      -- the capacity may be taken over more than once
      cases capacity : s.eventLogCapacity <;> simp [adopt, capacity]

/-- The lines of a document are read as the settings that they speak of, and checked. -/
theorem ofToml_lines (writable : s.Writable) (once : order.Nodup) {text : String}
    (written : SpellsLines (s.entries order) text.toList) :
    ofToml text = (s.keeping order).validate := by
  have read := Toml.document?_spelled written (nodup_keys once)
  have taken : order.foldl (fun b x => b.adopt s x) default = s.keeping order := by
    rw [foldl_adopt]
    show Settings.mk _ _ (if _ then s.eventLogCapacity.or none else none) = _
    rw [Option.or_none]
    rfl
  unfold ofToml
  rw [read]
  show ((s.entries order).foldlM readEntry default).bind validate = _
  rw [foldlM_readEntry writable, taken]
  rfl

theorem good_default (x : Setting) : default.Good x := by
  cases x with
  | hostName => exact ⟨'e', by decide, by decide⟩
  | shutdownTimeout => exact fun h => absurd h (by decide)
  | eventLogCapacity => exact fun h => absurd h (by decide)

/-- What is left out of a document is good, so nothing bad comes in. -/
theorem good_keeping (good : ∀ x, s.Good x) (order : List Setting) (x : Setting) :
    (s.keeping order).Good x := by
  have left := good_default x
  have said := good x
  by_cases mentioned : x ∈ order
  · cases x <;> simpa [Good, keeping, mentioned] using said
  · cases x <;> simpa [Good, keeping, mentioned] using left

/-- A document that leaves nothing out keeps everything. -/
theorem keeping_eq_self (complete : ∀ x, s.value? x ≠ none → x ∈ order) : s.keeping order = s := by
  have name : Setting.hostName ∈ order := complete _ (by simp [value?])
  have timeout : Setting.shutdownTimeout ∈ order := complete _ (by simp [value?])
  unfold keeping
  rw [if_pos name, if_pos timeout]
  by_cases mentioned : Setting.eventLogCapacity ∈ order
  · rw [if_pos mentioned]
  · have unset : s.eventLogCapacity = none := by
      by_contra set
      exact mentioned (complete _ fun unsaid => set (Option.map_eq_none_iff.mp unsaid))
    rw [if_neg mentioned]
    cases s
    cases unset
    rfl

/-! ## Settings in a document and back -/

/-- What becomes of settings in a document that speaks of some of them in an order. -/
structure Survives (s : Settings) (order : List Setting) (text : String) : Prop where
  /-- If it leaves nothing out, good settings come back as they are. -/
  restored : (∀ x, s.Good x) → (∀ x, s.value? x ≠ none → x ∈ order) → ofToml text = .ok s
  /-- Whatever it leaves out comes back as the default. -/
  defaulted : (∀ x, s.Good x) → ofToml text = .ok (s.keeping order)
  /-- The first setting without an allowed value is refused, in the order of the checks. -/
  refused : ∀ bad, (s.keeping order).FirstBad bad →
    ofToml text = .error (.invalid bad.name bad.demand)

/-- **Settings survive a document.** If the timeout is a whole number of milliseconds and the numbers
are not too large, some document speaks of any of the settings in any order, and whatever such document
is read gives what it says. -/
theorem survives_toml (writable : s.Writable) (once : order.Nodup) :
    (∃ text : String, SpellsLines (s.entries order) text.toList) ∧
      ∀ text : String, SpellsLines (s.entries order) text.toList → s.Survives order text := by
  refine ⟨exists_document writable order, fun text written => ?_⟩
  have read := ofToml_lines writable once written
  have kept (good : ∀ x, s.Good x) : ofToml text = .ok (s.keeping order) := by
    rw [read, validate_of_good (good_keeping good order)]
  refine ⟨fun good complete => ?_, kept, fun bad first => ?_⟩
  · rw [kept good, keeping_eq_self complete]
  · rw [read, validate_of_firstBad first]
    rfl

/-- Settings with a name that has to be escaped. -/
def accented : Settings := ⟨"é\"1", .ofMillis 250, some 8⟩

/-- A document that speaks of all of them, in another order than the checks. -/
def accentedText : String :=
  "event_log_capacity = 8\nhost_name = \"\\u00E9\\\"1\"\r\nshutdown_timeout_ms = 250"

theorem spells_name : SpellsValue (.string "é\"1") "\"\\u00E9\\\"1\"".toList := by
  have digits : Toml.Hex 'é'.toNat ['0', '0', 'E', '9'] :=
    .snoc (.snoc (.snoc (.snoc .nil (k := 0) (.inl rfl)) (k := 0) (.inl rfl)) (k := 14) (.inr rfl))
      (k := 9) (.inl rfl)
  have text : Toml.SpellsText ['é', '"', '1'] _ :=
    .cons (.short digits rfl) (.cons (.letter (e := '"') (by decide))
      (.cons (.itself (by decide) (by decide) (by decide)) .nil))
  exact .string text

theorem accented_survives : accented.Survives [.eventLogCapacity, .hostName, .shutdownTimeout]
      accentedText ∧ ofToml accentedText = .ok accented := by
  have writable : accented.Writable := by
    constructor
    · exact ⟨250, by decide, by decide⟩
    · intro n hn
      cases hn
      decide
  have written : SpellsLines (accented.entries [.eventLogCapacity, .hostName, .shutdownTimeout])
      accentedText.toList :=
    .cons (Setting.bareKey .eventLogCapacity) (.integer (n := 8) (by decide)) .spaced (.feed _)
      (.cons (Setting.bareKey .hostName) spells_name .spaced (.returnFeed _)
        (.cons (Setting.bareKey .shutdownTimeout) (.integer (n := 250) (by decide)) .spaced
          .document .nil))
  have survives := (survives_toml writable (by decide)).2 accentedText written
  have good : ∀ x, accented.Good x := by
    intro x
    cases x with
    | hostName => exact ⟨'1', by decide, by decide⟩
    | shutdownTimeout => exact fun h => absurd h (by decide)
    | eventLogCapacity => exact fun h => absurd h (by decide)
  exact ⟨survives, survives.restored good fun x _ => by cases x <;> decide⟩

end Settings

end HostBench
