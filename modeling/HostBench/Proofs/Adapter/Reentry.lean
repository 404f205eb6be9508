/-
  Fallbacks that use their adapter again. While a fallback answers it may call the adapter that asked
  it, to any depth, add to the script and set another fallback, as whoever made the outer call may.
  What either does is a `Dialogue`, and `Desk.answer` runs that of a fallback inside of the call.

  A call takes what it needs from the adapter before anyone answers it. So an adapter is at each time
  what it comes to by what was added, set and begun so far, one after the other and however nested
  (`Follows`), and with that go what is left of its script and how its calls are counted
  (`reads_of_follows`). That each call comes to what it found is shown of every part of a run
  (`Recounts`): of a dialogue if it holds of its calls (`leads_run`), of a call by induction on how deep
  fallbacks are nested in it (`leads_answer`). Both together are what a run is told by
  (`converses_run`).
-/
import HostBench.Proofs.Adapter.Script

namespace HostBench

variable {E Req Resp F α : Type}

/-! ## Dialogues -/

/-- What someone does with an adapter, one step after the other. Each step may depend on all that the
earlier ones have shown. -/
inductive Dialogue (E Req Resp F α : Type) where
  | done (a : α)
  /-- Changes what lies around the adapter, having seen it. -/
  | act (change : E → E) (next : E → Dialogue E Req Resp F α)
  | look (next : Adapter Req Resp F → Dialogue E Req Resp F α)
  | add (e : Scripted Resp) (next : Dialogue E Req Resp F α)
  | replace (f : F) (next : Dialogue E Req Resp F α)
  | call (request : Req) (next : Except AdapterError Resp → Dialogue E Req Resp F α)

/-- What is remarked of an adapter. Calls are told apart by how many there were before. -/
inductive Remark (Req Resp F : Type) where
  | looked (a : Adapter Req Resp F)
  | added (e : Scripted Resp)
  | replaced (f : F)
  /-- A call begins, and this is what it finds. -/
  | called (n : Nat) (request : Req) (found : Option (Scripted Resp)) (fallback : Option F)
  /-- The adapter reports a call. -/
  | reported (name : String) (n : Nat)
  /-- A fallback begins to answer. -/
  | asked (n : Nat) (f : F) (request : Req)
  /-- It has come to a result of its own. -/
  | answered (n : Nat) (result : Except AdapterError Resp)
  /-- The call comes back. -/
  | returned (n : Nat) (result : Except AdapterError Resp)

/-- An adapter with what lies around it, and all that was remarked, the oldest first. -/
structure Desk (E Req Resp F : Type) where
  adapter : Adapter Req Resp F
  around : E
  log : List (Remark Req Resp F)
  /-- A fallback did not answer, because fallbacks were nested too deep. -/
  cut : Bool

/-- How fallbacks answer. -/
abbrev Desk.Answer (E Req Resp F : Type) : Type :=
  F → Req → StateM (Desk E Req Resp F) (Except AdapterError Resp)

namespace Desk

/-- Where the adapter is. -/
def place : Place (Desk E Req Resp F) (Adapter Req Resp F) :=
  ⟨Desk.adapter, fun a s => { s with adapter := a }⟩

/-- Something is remarked. -/
def noting (s : Desk E Req Resp F) (x : Remark Req Resp F) : Desk E Req Resp F :=
  { s with log := s.log ++ [x] }

theorem log_noting (s : Desk E Req Resp F) (x : Remark Req Resp F) :
    (s.noting x).log = s.log ++ [x] := rfl

/-- The desk at which `answer` is how fallbacks answer. -/
def booth (answer : Desk.Answer E Req Resp F) :
    Booth (Desk E Req Resp F) Req Resp F :=
  ⟨place, fun name n s => ((), s.noting (.reported name n)), answer⟩

/-- Calls the adapter. -/
def call (answer : Desk.Answer E Req Resp F) (request : Req) :
    StateM (Desk E Req Resp F) (Except AdapterError Resp) := fun s =>
  let n := s.adapter.calls.length
  let (result, s) := Adapter.call (booth answer).place (booth answer).report answer request
    (s.noting (.called n request s.adapter.script.head? s.adapter.fallback))
  (result, s.noting (.returned n result))

end Desk

/-- Runs a dialogue. -/
def Dialogue.run (answer : Desk.Answer E Req Resp F) :
    Dialogue E Req Resp F α → StateM (Desk E Req Resp F) α
  | .done a => fun s => (a, s)
  | .act change next => fun s =>
    (next s.around).run answer { s with around := change s.around }
  | .look next => fun s => (next s.adapter).run answer (s.noting (.looked s.adapter))
  | .add e next => fun s =>
    next.run answer { s.noting (.added e) with adapter := s.adapter.push e }
  | .replace f next => fun s =>
    next.run answer { s.noting (.replaced f) with adapter := s.adapter.setFallback f }
  | .call request next => fun s =>
    (next (Desk.call answer request s).1).run answer (Desk.call answer request s).2

/-- The desk at which a fallback begins to answer, which is when its call is the last one known. -/
def Desk.asking (s : Desk E Req Resp F) (f : F) (request : Req) : Desk E Req Resp F :=
  s.noting (.asked (s.adapter.calls.length - 1) f request)

/-- How fallbacks answer: each does what `play` has it do. In it there is room for so many more to be
nested; one for which there is none does not answer. -/
def Desk.answer (play : F → Req → Dialogue E Req Resp F (Except AdapterError Resp)) :
    Nat → F → Req → StateM (Desk E Req Resp F) (Except AdapterError Resp)
  | 0, _, _ => fun s => (.error (.unscripted s.adapter.name 0), { s with cut := true })
  | room + 1, f, request => fun s =>
    let n := s.adapter.calls.length - 1
    let (result, s) := (play f request).run (answer play room) (s.asking f request)
    (result, s.noting (.answered n result))

/-! ## What the remarks say -/

namespace Remark

/-- The call that it is about. -/
def number? : Remark Req Resp F → Option Nat
  | .called n _ _ _ | .reported _ n | .asked n _ _ | .answered n _ | .returned n _ => some n
  | .looked _ | .added _ | .replaced _ => none

/-- The entry that is added to the script. -/
def added? : Remark Req Resp F → Option (Scripted Resp)
  | .added e => some e
  | _ => none

/-- The fallback that is set. -/
def replaced? : Remark Req Resp F → Option F
  | .replaced f => some f
  | _ => none

/-- The request of the call that begins. -/
def request? : Remark Req Resp F → Option Req
  | .called _ request _ _ => some request
  | _ => none

/-- The number of the call that begins. -/
def begun? : Remark Req Resp F → Option Nat
  | .called n _ _ _ => some n
  | _ => none

/-- The entry of the script that is used up. -/
def used? : Remark Req Resp F → Option (Scripted Resp)
  | .called _ _ found _ => found
  | _ => none

/-- What becomes of the adapter. -/
def change : Remark Req Resp F → Adapter Req Resp F → Adapter Req Resp F
  | .added e, a => a.push e
  | .replaced f, a => a.setFallback f
  | .called _ request _ _, a => (a.begin request).1
  | _, a => a

/-- It can be said of the adapter. -/
def Fits (a : Adapter Req Resp F) : Remark Req Resp F → Prop
  | .looked x => x = a
  | .added _ | .replaced _ => True
  | .called n _ found fallback =>
    n = a.calls.length ∧ found = a.script.head? ∧ fallback = a.fallback
  | .reported name n => name = a.name ∧ n < a.calls.length
  | .asked n _ _ | .answered n _ | .returned n _ => n < a.calls.length

/-- The entries added, in order. -/
def entries (log : List (Remark Req Resp F)) : List (Scripted Resp) := log.filterMap added?

/-- The requests made, in the order in which their calls began. -/
def requests (log : List (Remark Req Resp F)) : List Req := log.filterMap request?

/-- The calls made, in the order in which they began. -/
def begun (log : List (Remark Req Resp F)) : List Nat := log.filterMap begun?

/-- The entries used up, in the order in which the calls began that found them. -/
def used (log : List (Remark Req Resp F)) : List (Scripted Resp) := log.filterMap used?

/-- The fallback set last, or the one that there was before. -/
def standing (first : Option F) (log : List (Remark Req Resp F)) : Option F :=
  (log.filterMap replaced?).getLast?.or first

/-- What is remarked of one call. -/
def about (n : Nat) (log : List (Remark Req Resp F)) : List (Remark Req Resp F) :=
  log.filter (·.number? == some n)

/-- What is remarked of a call, by what it finds: it comes back with what the entry says, or with what
the fallback came to that was set when it began, or is not in the script. -/
inductive Course (name : String) (n : Nat) (request : Req) :
    Option (Scripted Resp) → Option F → List (Remark Req Resp F) → Prop where
  | scripted (e : Scripted Resp) (fallback : Option F) : Course name n request (some e) fallback
    [.called n request (some e) fallback, .reported name n, .returned n (e.result name)]
  | answered (f : F) (result : Except AdapterError Resp) : Course name n request none (some f)
    [.called n request none (some f), .reported name n, .asked n f request, .answered n result,
      .returned n result]
  | unscripted : Course name n request none none
    [.called n request none none, .reported name n,
      .returned n (.error (.unscripted name n))]

end Remark

open Remark

namespace Adapter

/-- What an adapter comes to by what is remarked, one after the other. -/
def after (a : Adapter Req Resp F) (log : List (Remark Req Resp F)) : Adapter Req Resp F :=
  log.foldl (fun a x => x.change a) a

/-- What is left of an adapter and of what was added, set and called in all: the entries that were
not used up, the fallback set last and all requests. -/
def left (a : Adapter Req Resp F) (log : List (Remark Req Resp F)) : Adapter Req Resp F where
  name := a.name
  script := (a.script ++ entries log).drop (used log).length
  fallback := standing a.fallback log
  calls := a.calls ++ requests log

theorem after_append (a : Adapter Req Resp F) (l m : List (Remark Req Resp F)) :
    a.after (l ++ m) = (a.after l).after m := List.foldl_append

end Adapter

variable {a b c : Adapter Req Resp F} {l m : List (Remark Req Resp F)}

/-! ## Remarks that follow one another -/

/-- From one adapter to the next there are some remarks: it has come by them to what it is now, and
each could be said of the adapter at its time. -/
structure Follows (a : Adapter Req Resp F) (l : List (Remark Req Resp F))
    (b : Adapter Req Resp F) : Prop where
  after_eq : b = a.after l
  fits : ∀ i (x : Remark Req Resp F), l[i]? = some x → x.Fits (a.after (l.take i))

theorem Follows.refl (a : Adapter Req Resp F) : Follows a [] a where
  after_eq := rfl
  fits i x found := by simp at found

theorem Follows.trans (first : Follows a l b) (second : Follows b m c) : Follows a (l ++ m) c where
  after_eq := by rw [second.after_eq, first.after_eq, Adapter.after_append]
  fits := by
    intro i x found
    rcases Nat.lt_or_ge i l.length with before | behind
    · rw [List.getElem?_append_left before] at found
      rw [List.take_append_of_le_length (Nat.le_of_lt before)]
      exact first.fits i x found
    · rw [List.getElem?_append_right behind] at found
      rw [List.take_append, List.take_of_length_le behind, Adapter.after_append, ← first.after_eq]
      exact second.fits _ x found

theorem Follows.single {x : Remark Req Resp F} (fits : x.Fits a) : Follows a [x] (x.change a) where
  after_eq := rfl
  fits := by
    intro i y found
    cases i with
    | zero =>
      cases found
      exact fits
    | succ i => simp at found

/-- The last remark, and those before it. -/
theorem Follows.concat {x : Remark Req Resp F} (h : Follows a (l ++ [x]) b) :
    Follows a l (a.after l) ∧ x.Fits (a.after l) ∧ b = x.change (a.after l) := by
  refine ⟨⟨rfl, fun i y found => ?_⟩, ?_, ?_⟩
  · have inside : i < l.length := (List.getElem?_eq_some_iff.mp found).1
    have fits := h.fits i y (by rw [List.getElem?_append_left inside]; exact found)
    rwa [List.take_append_of_le_length (Nat.le_of_lt inside)] at fits
  · have fits := h.fits l.length x (by simp)
    rwa [List.take_left] at fits
  · rw [h.after_eq, Adapter.after_append]
    rfl

/-- The remarks up to a place. -/
theorem Follows.take (h : Follows a l b) (i : Nat) : Follows a (l.take i) (a.after (l.take i)) where
  after_eq := rfl
  fits := by
    intro j x found
    rw [List.getElem?_take] at found
    split at found
    · rename_i before
      rw [List.take_take, Nat.min_eq_left (Nat.le_of_lt before)]
      exact h.fits j x found
    · cases found

/-! ## The script, read off the remarks -/

theorem entries_append (l m : List (Remark Req Resp F)) :
    entries (l ++ m) = entries l ++ entries m := List.filterMap_append

theorem requests_append (l m : List (Remark Req Resp F)) :
    requests (l ++ m) = requests l ++ requests m := List.filterMap_append

theorem begun_append (l m : List (Remark Req Resp F)) : begun (l ++ m) = begun l ++ begun m :=
  List.filterMap_append

theorem used_append (l m : List (Remark Req Resp F)) : used (l ++ m) = used l ++ used m :=
  List.filterMap_append

theorem standing_append (first : Option F) (l m : List (Remark Req Resp F)) :
    standing first (l ++ m) = standing (standing first l) m := by
  rw [standing, List.filterMap_append, List.getLast?_append, Option.or_assoc]
  rfl

/-- What is left of an adapter after some remarks, which entries were used up for it, and how its
calls were counted. -/
structure Reads (a : Adapter Req Resp F) (l : List (Remark Req Resp F))
    (b : Adapter Req Resp F) : Prop where
  left_eq : b = a.left l
  used_eq : used l = (a.script ++ entries l).take (used l).length
  begun_eq : begun l = List.range' a.calls.length (requests l).length

theorem Reads.used_le (reads : Reads a l b) : (used l).length ≤ (a.script ++ entries l).length := by
  have h := congrArg List.length reads.used_eq
  rw [List.length_take] at h
  omega

theorem Reads.script_eq (reads : Reads a l b) :
    b.script = (a.script ++ entries l).drop (used l).length := by
  rw [reads.left_eq]
  rfl

theorem Reads.calls_eq (reads : Reads a l b) : b.calls = a.calls ++ requests l := by
  rw [reads.left_eq]
  rfl

theorem Reads.trans (first : Reads a l b) (second : Reads b m c) : Reads a (l ++ m) c where
  left_eq := by
    rw [second.left_eq, Adapter.left, Adapter.left, first.script_eq, first.calls_eq,
      ← List.drop_append_of_le_length first.used_le, List.drop_drop, entries_append, used_append,
      List.length_append, requests_append, standing_append, first.left_eq]
    simp [Adapter.left]
  used_eq := by
    rw [entries_append, used_append, List.length_append, List.take_add, ← List.append_assoc,
      List.take_append_of_le_length first.used_le, ← first.used_eq,
      List.drop_append_of_le_length first.used_le, ← first.script_eq, ← second.used_eq]
  begun_eq := by
    rw [begun_append, requests_append, first.begun_eq, second.begun_eq, first.calls_eq,
      List.length_append, List.length_append, ← List.range'_append_1]

/-- What fits an adapter reads so: a call uses up the first of the entries that there are. -/
theorem Reads.single {x : Remark Req Resp F} (fits : x.Fits a) : Reads a [x] (x.change a) := by
  cases x with
  | called n request found fallback =>
    obtain ⟨rfl, rfl, rfl⟩ := fits
    refine ⟨?_, ?_, rfl⟩
    · cases h : a.script <;>
        simp [change, Adapter.begin_fst, Adapter.left, entries, used, standing, requests, h,
          List.filterMap_cons, added?, used?, replaced?, request?]
    · cases h : a.script <;> simp [entries, used, List.filterMap_cons, added?, used?]
  | _ =>
    refine ⟨?_, rfl, rfl⟩
    simp [change, Adapter.push, Adapter.setFallback, Adapter.left, entries, used, standing,
      requests, List.filterMap_cons, added?, used?, replaced?, request?]

/-- **One remark after the other.** -/
theorem reads_of_follows (h : Follows a l b) : Reads a l b := by
  induction l using List.reverseRecOn generalizing b with
  | nil =>
    rw [h.after_eq]
    refine ⟨?_, rfl, rfl⟩
    simp [Adapter.after, Adapter.left, entries, used, standing, requests]
  | append_singleton l x ih =>
    obtain ⟨before, fits, rfl⟩ := h.concat
    exact (ih before).trans (.single fits)

theorem Follows.length_le (h : Follows a l b) : a.calls.length ≤ b.calls.length := by
  rw [(reads_of_follows h).calls_eq, List.length_append]
  exact Nat.le_add_right _ _

/-! ## Accounts of nested calls -/

/-- From one adapter to the next there are some remarks, and of each call that began among them they
say how it came to its result. -/
structure Recounts (a : Adapter Req Resp F) (l : List (Remark Req Resp F))
    (b : Adapter Req Resp F) : Prop extends Follows a l b where
  within : ∀ x ∈ l, ∀ n, x.number? = some n → a.calls.length ≤ n ∧ n < b.calls.length
  course : ∀ n request found fallback, .called n request found fallback ∈ l →
    Course a.name n request found fallback (about n l)

theorem about_append (n : Nat) (l m : List (Remark Req Resp F)) :
    about n (l ++ m) = about n l ++ about n m := List.filter_append l m

theorem about_eq_nil {n : Nat} (none : ∀ x ∈ l, x.number? ≠ some n) : about n l = [] :=
  List.filter_eq_nil_iff.mpr fun x hx same => none x hx (by simpa using same)

theorem Recounts.about_before {n : Nat} (h : Recounts a l b) (lt : n < a.calls.length) :
    about n l = [] :=
  about_eq_nil fun x hx same => Nat.not_le_of_lt lt (h.within x hx n same).1

theorem Recounts.about_behind {n : Nat} (h : Recounts a l b) (le : b.calls.length ≤ n) :
    about n l = [] :=
  about_eq_nil fun x hx same => Nat.not_lt_of_le le (h.within x hx n same).2

/-- A call is one of those of a part in which it begins. -/
theorem Recounts.within_called (h : Recounts a l b) {n : Nat} {request : Req}
    {found : Option (Scripted Resp)} {fallback : Option F}
    (mem : .called n request found fallback ∈ l) : a.calls.length ≤ n ∧ n < b.calls.length :=
  h.within _ mem n rfl

theorem Recounts.refl (a : Adapter Req Resp F) : Recounts a [] a where
  toFollows := .refl a
  within _ hx := absurd hx List.not_mem_nil
  course _ _ _ _ mem := absurd mem List.not_mem_nil

theorem Recounts.name_eq (h : Recounts a l b) : b.name = a.name := by
  rw [(reads_of_follows h.toFollows).left_eq]
  rfl

theorem Recounts.trans (first : Recounts a l b) (second : Recounts b m c) :
    Recounts a (l ++ m) c where
  toFollows := first.toFollows.trans second.toFollows
  within := by
    intro x hx n number
    have grows := first.toFollows.length_le
    have growsOn := second.toFollows.length_le
    rcases List.mem_append.mp hx with hx | hx
    · have bounds := first.within x hx n number
      omega
    · have bounds := second.within x hx n number
      omega
  course := by
    intro n request found fallback mem
    rw [about_append]
    rcases List.mem_append.mp mem with mem | mem
    · rw [second.about_before (first.within_called mem).2, List.append_nil]
      exact first.course _ _ _ _ mem
    · rw [first.about_behind (second.within_called mem).1, List.nil_append, ← first.name_eq]
      exact second.course _ _ _ _ mem

/-- A remark that is not about a call. -/
theorem Recounts.plain {x : Remark Req Resp F} (fits : x.Fits a) (none : x.number? = none) :
    Recounts a [x] (x.change a) where
  toFollows := .single fits
  within y hy n number := by
    rw [List.mem_singleton.mp hy, none] at number
    cases number
  course n request found fallback mem := by
    rw [← List.mem_singleton.mp mem] at none
    cases none

/-- The adapter that knows of a call. -/
abbrev Adapter.knowing (a : Adapter Req Resp F) (request : Req) : Adapter Req Resp F :=
  (a.begin request).1

/-- What is remarked of a call before anyone answers it: what the adapter has for it, and that it is
reported. -/
abbrev Adapter.opening (a : Adapter Req Resp F) (request : Req) : List (Remark Req Resp F) :=
  [.called a.calls.length request a.script.head? a.fallback, .reported a.name a.calls.length]

theorem Adapter.name_knowing (a : Adapter Req Resp F) (request : Req) :
    (a.knowing request).name = a.name := by
  rw [Adapter.knowing, Adapter.begin_fst]

theorem Adapter.length_knowing (a : Adapter Req Resp F) (request : Req) :
    (a.knowing request).calls.length = a.calls.length + 1 := by
  rw [Adapter.calls_begin, List.length_append, List.length_singleton]

theorem follows_opening (a : Adapter Req Resp F) (request : Req) :
    Follows a (a.opening request) (a.knowing request) := by
  have begins : Follows a [.called a.calls.length request a.script.head? a.fallback]
      (a.knowing request) := .single ⟨rfl, rfl, rfl⟩
  have known : a.calls.length < (a.knowing request).calls.length := by
    rw [Adapter.length_knowing]
    exact Nat.lt_succ_self _
  exact begins.trans (.single ⟨(a.name_knowing request).symm, known⟩)

/-- A call that nobody need answer comes back at once. -/
theorem recounts_done (a : Adapter Req Resp F) (request : Req)
    (result : Except AdapterError Resp)
    (course : Course a.name a.calls.length request a.script.head? a.fallback
      (a.opening request ++ [.returned a.calls.length result])) :
    Recounts a (a.opening request ++ [.returned a.calls.length result]) (a.knowing request) where
  toFollows := by
    have returns : Follows (a.knowing request) [.returned a.calls.length result]
        (a.knowing request) :=
      .single (by rw [Fits, Adapter.length_knowing]; exact Nat.lt_succ_self _)
    exact (follows_opening a request).trans returns
  within x hx n number := by
    have same : n = a.calls.length := by
      simp only [Adapter.opening, List.mem_append, List.mem_cons, List.not_mem_nil, or_false] at hx
      rcases hx with (rfl | rfl) | rfl <;> exact (Option.some.inj number).symm
    rw [Adapter.length_knowing]
    omega
  course n request' found fallback mem := by
    simp only [Adapter.opening, List.mem_append, List.mem_cons, List.not_mem_nil, or_false,
      reduceCtorEq] at mem
    cases mem
    simpa [about, number?] using course

/-- A call that a fallback answers, which does something with the adapter that knows of the call. -/
theorem recounts_asked {f : F} (empty : a.script.head? = none) (set : a.fallback = some f)
    (request : Req) (result : Except AdapterError Resp)
    (inner : Recounts (a.knowing request) l b) :
    Recounts a (a.opening request ++ ([.asked a.calls.length f request] ++ (l ++
      [.answered a.calls.length result, .returned a.calls.length result]))) b := by
  have known := Adapter.length_knowing a request
  have grows := inner.toFollows.length_le
  have asks : Follows (a.knowing request) [.asked a.calls.length f request] (a.knowing request) :=
    .single (by rw [Fits, known]; exact Nat.lt_succ_self _)
  have answers : Follows b [.answered a.calls.length result] b := .single (by rw [Fits]; omega)
  have returns : Follows b [.returned a.calls.length result] b := .single (by rw [Fits]; omega)
  have follows := (follows_opening a request).trans
    (asks.trans (inner.toFollows.trans (answers.trans returns)))
  refine { toFollows := follows, within := ?_, course := ?_ }
  · intro x hx n number
    simp only [List.mem_append, List.mem_cons, List.not_mem_nil, or_false] at hx
    have bounds : n = a.calls.length ∨ (a.knowing request).calls.length ≤ n ∧ n < b.calls.length := by
      rcases hx with (rfl | rfl) | rfl | hx | rfl | rfl
      case inr.inr.inl => exact .inr (inner.within x hx n number)
      all_goals exact .inl (Option.some.inj number).symm
    omega
  · intro n request' found fallback mem
    simp only [List.mem_append, List.mem_cons, List.not_mem_nil, or_false, reduceCtorEq,
      false_or] at mem
    rcases mem with mem | mem
    · -- the call itself: what is nested in it is about other calls
      cases mem
      have others : about a.calls.length l = [] := inner.about_before (by omega)
      rw [Adapter.opening, about_append, about_append, about_append, others, empty, set]
      simpa [about, number?] using Course.answered f result
    · -- a call nested in it
      have other : n ≠ a.calls.length := by
        have bounds := inner.within_called mem
        omega
      have course := inner.course _ _ _ _ mem
      rw [a.name_knowing request] at course
      rw [about_append, about_append, about_append]
      simpa [about, number?, other.symm] using course

/-! ## Nested runs are told by their remarks -/

namespace Desk

variable {s s' s'' : Desk E Req Resp F} {answer answer' : Desk.Answer E Req Resp F}

/-- From one desk to the next some things were remarked which tell what the adapter has come to,
unless something was cut. -/
def Leads (s s' : Desk E Req Resp F) : Prop :=
  s'.cut = false → s.cut = false ∧ ∃ l, s'.log = s.log ++ l ∧ Recounts s.adapter l s'.adapter

/-- A fallback that answers a call leads on from where it was asked, and says so. -/
def Replies (answer : Desk.Answer E Req Resp F) : Prop :=
  ∀ f request s, (answer f request s).2.cut = false → s.cut = false ∧
    ∃ l, (answer f request s).2.log = s.log ++ ([.asked (s.adapter.calls.length - 1) f request] ++
        (l ++ [.answered (s.adapter.calls.length - 1) (answer f request s).1])) ∧
      Recounts s.adapter l (answer f request s).2.adapter

theorem Leads.refl (s : Desk E Req Resp F) : Leads s s :=
  fun whole => ⟨whole, [], (List.append_nil _).symm, .refl _⟩

theorem Leads.trans (first : Leads s s') (second : Leads s' s'') : Leads s s'' := by
  intro whole
  obtain ⟨middle, m, log_eq', recounts'⟩ := second whole
  obtain ⟨before, l, log_eq, recounts⟩ := first middle
  exact ⟨before, l ++ m, by rw [log_eq', log_eq, List.append_assoc], recounts.trans recounts'⟩

theorem leads_plain (s : Desk E Req Resp F) {x : Remark Req Resp F} (fits : x.Fits s.adapter)
    (none : x.number? = none) : Leads s { s.noting x with adapter := x.change s.adapter } :=
  fun whole => ⟨whole, [x], rfl, .plain fits none⟩

/-- The desk at which a call begins. -/
def calling (s : Desk E Req Resp F) (request : Req) : Desk E Req Resp F :=
  s.noting (.called s.adapter.calls.length request s.adapter.script.head? s.adapter.fallback)

/-- The desk at which a call is known and reported. -/
def known (s : Desk E Req Resp F) (request : Req) : Desk E Req Resp F where
  adapter := s.adapter.knowing request
  around := s.around
  log := s.log ++ s.adapter.opening request
  cut := s.cut

theorem heard_calling (s : Desk E Req Resp F) (request : Req) :
    (booth answer).heard request (s.calling request) = s.known request := by
  simp [Booth.heard, booth, place, calling, known, noting, Adapter.begin_fst]

theorem call_of_done {request : Req} {result : Except AdapterError Resp}
    (done : (s.adapter.begin request).2 = .done result) :
    call answer request s =
      (result, (s.known request).noting (.returned s.adapter.calls.length result)) := by
  have h := Booth.call_of_done (booth answer) (s := s.calling request) done
  rw [heard_calling] at h
  exact congrArg (fun p => (p.1, p.2.noting (.returned s.adapter.calls.length p.1))) h

theorem call_of_ask {request : Req} {f : F} (ask : (s.adapter.begin request).2 = .ask f) :
    call answer request s = ((answer f request (s.known request)).1,
      (answer f request (s.known request)).2.noting
        (.returned s.adapter.calls.length (answer f request (s.known request)).1)) := by
  have h := Booth.call_of_ask (booth answer) (s := s.calling request) ask
  rw [heard_calling] at h
  exact congrArg (fun p => (p.1, p.2.noting (.returned s.adapter.calls.length p.1))) h

/-- A call that needs no fallback. -/
theorem leads_done {request : Req} {result : Except AdapterError Resp}
    (done : (s.adapter.begin request).2 = .done result)
    (course : Course s.adapter.name s.adapter.calls.length request s.adapter.script.head?
      s.adapter.fallback
      (s.adapter.opening request ++ [.returned s.adapter.calls.length result])) :
    Leads s (call answer request s).2 := by
  rw [call_of_done done]
  intro whole
  exact ⟨whole, _, List.append_assoc _ _ _, recounts_done s.adapter request result course⟩

/-- A call leads on, if fallbacks do. -/
theorem leads_call (inner : Replies answer) (request : Req) (s : Desk E Req Resp F) :
    Leads s (call answer request s).2 := by
  cases found : s.adapter.script with
  | cons e rest =>
    refine leads_done (by rw [Adapter.begin_of_entry found]) ?_
    rw [Adapter.opening, found]
    exact .scripted e _
  | nil =>
    cases set : s.adapter.fallback with
    | none =>
      refine leads_done (by rw [Adapter.begin_of_nothing found set]) ?_
      rw [Adapter.opening, found, set]
      exact .unscripted
    | some f =>
      rw [call_of_ask (by rw [Adapter.begin_of_fallback found set])]
      intro whole
      obtain ⟨before, l, log_eq, recounts⟩ := inner f request (s.known request) whole
      have number : (s.known request).adapter.calls.length - 1 = s.adapter.calls.length :=
        Nat.sub_eq_of_eq_add (Adapter.length_knowing s.adapter request)
      rw [number] at log_eq
      refine ⟨before, _, ?_, recounts_asked (by rw [found]; rfl) set request
        (answer f request (s.known request)).1 recounts⟩
      rw [log_noting, log_eq, known]
      simp only [List.append_assoc, List.cons_append, List.nil_append]

/-- A dialogue leads on, if fallbacks do. -/
theorem leads_run (inner : Replies answer) (dialogue : Dialogue E Req Resp F α)
    (s : Desk E Req Resp F) : Leads s (dialogue.run answer s).2 := by
  induction dialogue generalizing s with
  | done a => exact .refl s
  | act change next ih => exact ih s.around { s with around := change s.around }
  | look next ih => exact (leads_plain s (x := .looked s.adapter) rfl rfl).trans (ih _ _)
  | add e next ih => exact (leads_plain s (x := .added e) trivial rfl).trans (ih _)
  | replace f next ih => exact (leads_plain s (x := .replaced f) trivial rfl).trans (ih _)
  | call request next ih => exact (leads_call inner request s).trans (ih _ _)

theorem answer_succ (play : F → Req → Dialogue E Req Resp F (Except AdapterError Resp)) (room : Nat)
    (f : F) (request : Req) (s : Desk E Req Resp F) :
    Desk.answer play (room + 1) f request s =
      (((play f request).run (Desk.answer play room) (s.asking f request)).1,
        ((play f request).run (Desk.answer play room) (s.asking f request)).2.noting
          (.answered (s.adapter.calls.length - 1)
            ((play f request).run (Desk.answer play room) (s.asking f request)).1)) := rfl

/-- However deep fallbacks are nested. -/
theorem leads_answer (play : F → Req → Dialogue E Req Resp F (Except AdapterError Resp))
    (room : Nat) : Replies (Desk.answer play room) := by
  induction room with
  | zero =>
    intro f request s whole
    cases whole
  | succ room ih =>
    intro f request s whole
    obtain ⟨before, l, log_eq, recounts⟩ := leads_run ih (play f request) (s.asking f request) whole
    refine ⟨before, l, ?_, recounts⟩
    rw [answer_succ, log_noting, log_eq, asking, log_noting]
    simp only [List.append_assoc]

/-! ## How deep fallbacks are nested makes no difference -/

theorem Leads.uncut (h : Leads s s') (whole : s'.cut = false) : s.cut = false := (h whole).1

/-- Whatever is not cut is the same with other fallbacks that agree with these where they are not
cut. -/
theorem call_of_agree
    (agree : ∀ f request s, (answer f request s).2.cut = false →
      answer' f request s = answer f request s)
    (request : Req) (s : Desk E Req Resp F) (whole : (call answer request s).2.cut = false) :
    call answer' request s = call answer request s := by
  cases reply : (s.adapter.begin request).2 with
  | done result => rw [call_of_done reply, call_of_done reply]
  | ask f =>
    rw [call_of_ask reply] at whole ⊢
    rw [call_of_ask reply, agree f request _ whole]

theorem run_of_agree (inner : Replies answer)
    (agree : ∀ f request s, (answer f request s).2.cut = false →
      answer' f request s = answer f request s)
    (dialogue : Dialogue E Req Resp F α) (s : Desk E Req Resp F)
    (whole : (dialogue.run answer s).2.cut = false) :
    dialogue.run answer' s = dialogue.run answer s := by
  induction dialogue generalizing s with
  | done a => rfl
  | act change next ih => exact ih _ _ whole
  | look next ih => exact ih _ _ whole
  | add e next ih => exact ih _ whole
  | replace f next ih => exact ih _ whole
  | call request next ih =>
    have called := call_of_agree agree request s
      ((leads_run inner (next (call answer request s).1) (call answer request s).2).uncut whole)
    show (next (call answer' request s).1).run answer' (call answer' request s).2 = _
    rw [called]
    exact ih _ _ whole

/-- With more room than is needed all is the same. -/
theorem answer_of_more (play : F → Req → Dialogue E Req Resp F (Except AdapterError Resp))
    (more room : Nat) (f : F) (request : Req) (s : Desk E Req Resp F)
    (whole : (Desk.answer play room f request s).2.cut = false) :
    Desk.answer play (room + more) f request s = Desk.answer play room f request s := by
  induction room generalizing f request s with
  | zero => cases whole
  | succ room ih =>
    have same := run_of_agree (leads_answer play room) ih (play f request) (s.asking f request) whole
    rw [show room + 1 + more = (room + more) + 1 by omega, answer_succ, answer_succ, same]

/-! ## Calls inside of calls -/

/-- What holds of an adapter that has come to another while this was remarked. -/
structure Converses (a : Adapter Req Resp F) (log : List (Remark Req Resp F))
    (b : Adapter Req Resp F) : Prop where
  /-- It is left with the entries that were not used up, the fallback set last and all requests in the
  order in which their calls began, each once. -/
  leaves : b = a.left log
  /-- The calls have been counted on in the order in which they began, without gaps or repeats. -/
  counted : begun log = List.range' a.calls.length (requests log).length
  /-- The entries used up are the first of those there were and those added, in order. -/
  used_up : used log = (a.script ++ entries log).take (used log).length
  /-- Who looked at it at any time saw what was left of it by then. -/
  seen : ∀ (i : Nat) (x : Adapter Req Resp F), log[i]? = some (.looked x) → x = a.left (log.take i)
  /-- A call that began then found the first entry left of those added before it began, and the
  fallback set last before it began; its request is kept in its place, and it came to what it found. -/
  called : ∀ (i n : Nat) (request : Req) (found : Option (Scripted Resp)) (fallback : Option F),
    log[i]? = some (.called n request found fallback) →
    n = a.calls.length + (requests (log.take i)).length ∧
    found = (a.script ++ entries (log.take i))[(used (log.take i)).length]? ∧
    fallback = standing a.fallback (log.take i) ∧
    b.calls[n]? = some request ∧
    Course a.name n request found fallback (about n log)
  /-- A call that begins when another has begun, as all those do that a fallback makes to answer it,
  comes after it in the count. -/
  nested : ∀ (i j n m : Nat) (x : Remark Req Resp F) (request : Req)
    (found : Option (Scripted Resp)) (fallback : Option F), i < j → log[i]? = some x →
    x.number? = some n → log[j]? = some (.called m request found fallback) → n < m

/-- A call is known once anything is remarked of it. -/
theorem number_lt {x : Remark Req Resp F} {n : Nat} (fits : x.Fits a) (number : x.number? = some n) :
    n < (x.change a).calls.length := by
  cases x with
  | called m request found fallback =>
    cases number
    rw [change, Adapter.calls_begin, List.length_append, fits.1]
    exact Nat.lt_succ_self _
  | reported name m =>
    cases number
    exact fits.2
  | asked m f request => cases number; exact fits
  | answered m result => cases number; exact fits
  | returned m result => cases number; exact fits
  | _ => cases number

theorem getElem?_requests {i : Nat} {x : Remark Req Resp F} {request : Req}
    (at_i : l[i]? = some x) (asks : x.request? = some request) :
    (requests l)[(requests (l.take i)).length]? = some request := by
  obtain ⟨lt, here⟩ := List.getElem?_eq_some_iff.mp at_i
  have split : l = l.take i ++ x :: l.drop (i + 1) := by
    rw [← here, ← List.drop_eq_getElem_cons lt, List.take_append_drop]
  have requests_eq : requests l = requests (l.take i) ++ request :: requests (l.drop (i + 1)) := by
    conv_lhs => rw [split]
    rw [requests_append, requests, requests, List.filterMap_cons_some asks]
    rfl
  rw [requests_eq, List.getElem?_append_right (Nat.le_refl _), Nat.sub_self]
  rfl

/-- **What nested accounts come to.** -/
theorem converses_of_recounts (h : Recounts a l b) : Converses a l b := by
  have reads := reads_of_follows h.toFollows
  have so_far := fun i => reads_of_follows (h.toFollows.take i)
  refine ⟨reads.left_eq, reads.begun_eq, reads.used_eq, ?_, ?_, ?_⟩
  · intro i x found
    have fits : x = a.after (l.take i) := h.fits i _ found
    rw [fits]
    exact (so_far i).left_eq
  · intro i n request found fallback at_i
    obtain ⟨number, head, set⟩ := h.fits i _ at_i
    rw [(so_far i).calls_eq, List.length_append] at number
    rw [(so_far i).script_eq, List.head?_drop] at head
    rw [(so_far i).left_eq] at set
    refine ⟨number, head, set, ?_, h.course n request found fallback (List.mem_of_getElem? at_i)⟩
    rw [reads.calls_eq, number, List.getElem?_append_right (Nat.le_add_right _ _),
      Nat.add_sub_cancel_left]
    exact getElem?_requests at_i rfl
  · intro i j n m x request found fallback lt at_i number at_j
    have known := number_lt (h.fits i x at_i) number
    have step : x.change (a.after (l.take i)) = a.after (l.take (i + 1)) := by
      rw [List.take_add_one, at_i, Adapter.after_append]
      rfl
    rw [step, (so_far (i + 1)).calls_eq, List.length_append] at known
    have counted : m = (a.after (l.take j)).calls.length := (h.fits j _ at_j).1
    rw [(so_far j).calls_eq, List.length_append] at counted
    have grows : (requests (l.take (i + 1))).length ≤ (requests (l.take j)).length :=
      ((List.take_sublist_take_left lt).filterMap request?).length_le
    omega

/-- **Nested calls keep the order in which they began.** Whatever a client and the fallbacks that
answer it do with an adapter, calling it again inside of its calls, if it comes to an end: what was
remarked tells what became of the adapter and of each call. More room to nest would change nothing. -/
theorem converses_run (play : F → Req → Dialogue E Req Resp F (Except AdapterError Resp)) (room : Nat)
    (client : Dialogue E Req Resp F α) (s : Desk E Req Resp F)
    (whole : (client.run (Desk.answer play room) s).2.cut = false) :
    (∃ log, (client.run (Desk.answer play room) s).2.log = s.log ++ log ∧
      Converses s.adapter log (client.run (Desk.answer play room) s).2.adapter) ∧
    ∀ more, client.run (Desk.answer play (room + more)) s = client.run (Desk.answer play room) s := by
  constructor
  · obtain ⟨_, log, log_eq, recounts⟩ := leads_run (leads_answer play room) client s whole
    exact ⟨log, log_eq, converses_of_recounts recounts⟩
  · intro more
    exact run_of_agree (leads_answer play room) (answer_of_more play more room) client s whole

/-! ## A switchboard -/

namespace Switchboard

/-- The first fallback puts the first request through with three of its own. The first of these it
answers while the outer call is still open: it adds an entry, which is for the second, and has another
fallback take the third. -/
def play : Bool → Nat → Dialogue Unit Nat Nat Bool (Except AdapterError Nat)
  | false, 0 => .call 1 fun _ => .call 2 fun _ => .call 3 fun last => .done last
  | false, _ => .add (.respond 10) (.replace true (.look fun a => .done (.ok a.calls.length)))
  | true, n => .done (.ok (20 + n))

def start : Desk Unit Nat Nat Bool where
  adapter := ⟨"line", [], some false, []⟩
  around := ()
  log := []
  cut := false

def client : Dialogue Unit Nat Nat Bool (Except AdapterError Nat) := .call 0 .done

end Switchboard

theorem switchboard_converses :
    (Switchboard.client.run (Desk.answer Switchboard.play 2) Switchboard.start).2.cut = false ∧
      (∃ log, (Switchboard.client.run (Desk.answer Switchboard.play 2) Switchboard.start).2.log =
          Switchboard.start.log ++ log ∧
        Converses Switchboard.start.adapter log
          (Switchboard.client.run (Desk.answer Switchboard.play 2) Switchboard.start).2.adapter) ∧
      (∀ more, Switchboard.client.run (Desk.answer Switchboard.play (2 + more)) Switchboard.start =
        Switchboard.client.run (Desk.answer Switchboard.play 2) Switchboard.start) ∧
      (Switchboard.client.run (Desk.answer Switchboard.play 2) Switchboard.start).1 = .ok 23 := by
  have whole : (Switchboard.client.run (Desk.answer Switchboard.play 2)
      Switchboard.start).2.cut = false := by decide
  have converses := converses_run Switchboard.play 2 Switchboard.client Switchboard.start whole
  exact ⟨whole, converses.1, converses.2, by decide⟩

end Desk

end HostBench
