/-
  An adapter over whole histories: entries are added to its script, fallbacks are set and calls are
  made, in any order, and other things happen in between.

  A history says by itself what there is for a call to find: the entries added in it, the requests
  made in it and the fallback set last (`entries`, `requests`, `standing`). What the adapter holds
  follows from that and from how many calls have been served from the script (`adapter_run`); what a
  call comes to follows from what it finds (`result_call`), and with it the whole history
  (`serves_in_order`).
-/
import HostBench.Adapter
import Mathlib.Data.List.Induction

namespace HostBench

variable {σ Req Resp F : Type}

/-- What a call is told by an entry of the script of the adapter of a name. -/
def Scripted.result (name : String) : Scripted Resp → Except AdapterError Resp
  | .respond r => .ok r
  | .fail message => .error (.scripted name message)

namespace Adapter

/-! ## What a call finds -/

theorem begin_of_entry {a : Adapter Req Resp F} {e : Scripted Resp} {rest : List (Scripted Resp)}
    (found : a.script = e :: rest) (request : Req) :
    a.begin request =
      ({ a with script := rest, calls := a.calls ++ [request] }, .done (e.result a.name)) := by
  unfold begin
  cases e <;> simp only [found, Scripted.result]

theorem begin_of_fallback {a : Adapter Req Resp F} {f : F} (empty : a.script = [])
    (set : a.fallback = some f) (request : Req) :
    a.begin request = ({ a with calls := a.calls ++ [request] }, .ask f) := by
  simp only [begin, empty, set]

theorem begin_of_nothing {a : Adapter Req Resp F} (empty : a.script = [])
    (unset : a.fallback = none) (request : Req) :
    a.begin request = ({ a with calls := a.calls ++ [request] },
      .done (.error (.unscripted a.name a.calls.length))) := by
  simp [begin, empty, unset]

/-- A call leaves the name and the fallback, uses up the first entry and keeps the request. -/
theorem begin_fst (a : Adapter Req Resp F) (request : Req) :
    (a.begin request).1 =
      { a with script := a.script.tail, calls := a.calls ++ [request] } := by
  cases found : a.script with
  | cons e rest => rw [begin_of_entry found, List.tail_cons]
  | nil =>
    cases set : a.fallback with
    | some f => rw [begin_of_fallback found set, List.tail_nil, ← found, ← set]
    | none => rw [begin_of_nothing found set, List.tail_nil, ← found, ← set]

end Adapter

/-! ## Histories -/

/-- Where an adapter stands: its place in a larger state, who hears of its calls, and how its
fallbacks answer. -/
structure Booth (σ Req Resp F : Type) where
  place : Place σ (Adapter Req Resp F)
  report : String → Nat → StateM σ Unit
  answer : F → Req → StateM σ (Except AdapterError Resp)

/-- What happens to an adapter, or elsewhere. -/
inductive Booth.Event (σ Req Resp F : Type) where
  | respond (r : Resp)
  | fail (message : String)
  | fallback (f : F)
  | call (request : Req)
  | elsewhere (act : StateM σ Unit)

/-- A call: the state in which it was made, the request and the result. -/
structure Booth.Called (σ Req Resp : Type) where
  before : σ
  request : Req
  result : Except AdapterError Resp

namespace Booth

/-- Who hears of calls and who answers them leaves the adapter as it is. -/
structure Aside (b : Booth σ Req Resp F) : Prop where
  lawful : b.place.Lawful
  report : ∀ name i s, b.place.get (b.report name i s).2 = b.place.get s
  answer : ∀ f request s, b.place.get (b.answer f request s).2 = b.place.get s

variable (b : Booth σ Req Resp F)

/-- What happens elsewhere leaves the adapter as it is. -/
def Elsewhere (events : List (Event σ Req Resp F)) : Prop :=
  ∀ act, .elsewhere act ∈ events → ∀ s, b.place.get (act s).2 = b.place.get s

/-- Changes the adapter. -/
def change (g : Adapter Req Resp F → Adapter Req Resp F) (s : σ) : σ :=
  b.place.set (g (b.place.get s)) s

/-- One event, with the call if it is one. -/
def happen (s : σ) : Event σ Req Resp F → Option (Called σ Req Resp) × σ
  | .respond r => (none, b.change (·.push (.respond r)) s)
  | .fail message => (none, b.change (·.push (.fail message)) s)
  | .fallback f => (none, b.change (·.setFallback f) s)
  | .call request =>
    (some ⟨s, request, (Adapter.call b.place b.report b.answer request s).1⟩,
      (Adapter.call b.place b.report b.answer request s).2)
  | .elsewhere act => (none, (act s).2)

/-- Events, one after the other, with the calls among them. -/
def run (s : σ) : List (Event σ Req Resp F) → List (Called σ Req Resp) × σ
  | [] => ([], s)
  | e :: rest =>
    ((b.happen s e).1.toList ++ (run (b.happen s e).2 rest).1, (run (b.happen s e).2 rest).2)

theorem run_append (s : σ) (events more : List (Event σ Req Resp F)) :
    b.run s (events ++ more) =
      ((b.run s events).1 ++ (b.run (b.run s events).2 more).1,
        (b.run (b.run s events).2 more).2) := by
  induction events generalizing s with
  | nil => rfl
  | cons e rest ih => simp [run, ih]

theorem run_concat (s : σ) (events : List (Event σ Req Resp F)) (e : Event σ Req Resp F) :
    b.run s (events ++ [e]) =
      ((b.run s events).1 ++ (b.happen (b.run s events).2 e).1.toList,
        (b.happen (b.run s events).2 e).2) := by
  simp [run_append, run]

/-- The entry that an event adds to the script. -/
def added? : Event σ Req Resp F → Option (Scripted Resp)
  | .respond r => some (.respond r)
  | .fail message => some (.fail message)
  | _ => none

def request? : Event σ Req Resp F → Option Req
  | .call request => some request
  | _ => none

def fallback? : Event σ Req Resp F → Option F
  | .fallback f => some f
  | _ => none

/-- The entries added, in order. -/
def entries (events : List (Event σ Req Resp F)) : List (Scripted Resp) := events.filterMap added?

/-- The requests made, in order. -/
def requests (events : List (Event σ Req Resp F)) : List Req := events.filterMap request?

/-- The fallback set last. -/
def standing (events : List (Event σ Req Resp F)) : Option F :=
  (events.filterMap fallback?).getLast?

/-- Whether a call found an entry in the script. -/
def Called.served (c : Called σ Req Resp) : Bool := !(b.place.get c.before).script.isEmpty

/-- The calls that found an entry in the script. -/
def served (s : σ) (events : List (Event σ Req Resp F)) : List (Called σ Req Resp) :=
  (b.run s events).1.filter (Called.served b)

theorem served_concat (s : σ) (events : List (Event σ Req Resp F)) (e : Event σ Req Resp F) :
    b.served s (events ++ [e]) = b.served s events ++
      ((b.happen (b.run s events).2 e).1.toList.filter (Called.served b)) := by
  simp only [served, run_concat, List.filter_append]

theorem entries_concat (events : List (Event σ Req Resp F)) (e : Event σ Req Resp F) :
    entries (events ++ [e]) = entries events ++ (added? e).toList := by
  cases h : added? e <;> simp [entries, h]

theorem requests_concat (events : List (Event σ Req Resp F)) (e : Event σ Req Resp F) :
    requests (events ++ [e]) = requests events ++ (request? e).toList := by
  cases h : request? e <;> simp [requests, h]

theorem standing_concat (events : List (Event σ Req Resp F)) (e : Event σ Req Resp F) :
    standing (events ++ [e]) = (fallback? e).or (standing events) := by
  cases h : fallback? e <;> simp [standing, h]

/-! ## One call -/

/-- The state once a call is recorded and reported. -/
def heard (request : Req) (s : σ) : σ :=
  let a := ((b.place.get s).begin request).1
  (b.report a.name (a.calls.length - 1) (b.place.set a s)).2

/-- What a call comes to that is made in a state, with so many calls before it: what the entry says
that it finds; else what the fallback says in the state that knows of the call; else that it is not
in the script. -/
def told (name : String) (found : Option (Scripted Resp)) (fallback : Option F) (before : Nat)
    (request : Req) (s : σ) : Except AdapterError Resp :=
  match found, fallback with
  | some e, _ => e.result name
  | none, some f => (b.answer f request (b.heard request s)).1
  | none, none => .error (.unscripted name before)

theorem call_of_done {s : σ} {request : Req} {result : Except AdapterError Resp}
    (done : ((b.place.get s).begin request).2 = .done result) :
    Adapter.call b.place b.report b.answer request s = (result, b.heard request s) := by
  simp only [Adapter.call, bind, StateT.bind, Place.read, Place.write, done]
  rfl

theorem call_of_ask {s : σ} {request : Req} {f : F}
    (ask : ((b.place.get s).begin request).2 = .ask f) :
    Adapter.call b.place b.report b.answer request s =
      b.answer f request (b.heard request s) := by
  simp only [Adapter.call, bind, StateT.bind, Place.read, Place.write, ask]
  rfl

/-- **What a call comes to**, by what it finds. -/
theorem result_call (s : σ) (request : Req) :
    (Adapter.call b.place b.report b.answer request s).1 =
      b.told (b.place.get s).name (b.place.get s).script.head? (b.place.get s).fallback
        (b.place.get s).calls.length request s := by
  cases found : (b.place.get s).script with
  | cons e rest =>
    rw [call_of_done b (by rw [Adapter.begin_of_entry found])]
    rfl
  | nil =>
    cases set : (b.place.get s).fallback with
    | some f =>
      rw [call_of_ask b (by rw [Adapter.begin_of_fallback found set])]
      rfl
    | none =>
      rw [call_of_done b (by rw [Adapter.begin_of_nothing found set])]
      rfl

/-! ## The adapter after an event -/

section Aside

variable {b} (aside : b.Aside)

include aside

theorem get_change (g : Adapter Req Resp F → Adapter Req Resp F) (s : σ) :
    b.place.get (b.change g s) = g (b.place.get s) := aside.lawful.get_set _ _

theorem get_heard (request : Req) (s : σ) :
    b.place.get (b.heard request s) = ((b.place.get s).begin request).1 := by
  rw [heard, aside.report, aside.lawful.get_set]

/-- A call leaves the adapter as the recording of the request does, whoever answers it. -/
theorem get_call (request : Req) (s : σ) :
    b.place.get (Adapter.call b.place b.report b.answer request s).2 =
      ((b.place.get s).begin request).1 := by
  cases reply : ((b.place.get s).begin request).2 with
  | done result => rw [call_of_done b reply, get_heard aside]
  | ask f => rw [call_of_ask b reply, aside.answer, get_heard aside]

/-- A call: what it comes to, and the adapter after it. -/
theorem happen_call {s : σ} {a : Adapter Req Resp F} (here : b.place.get s = a) (request : Req) :
    (b.happen s (.call request)).1 = some ⟨s, request,
      b.told a.name a.script.head? a.fallback a.calls.length request s⟩ ∧
    b.place.get (b.happen s (.call request)).2 =
      { a with script := a.script.tail, calls := a.calls ++ [request] } := by
  subst here
  refine ⟨?_, ?_⟩
  · rw [happen, result_call]
  · rw [happen, get_call aside, Adapter.begin_fst]

end Aside

/-! ## Whole histories -/

variable {b}

/-- What a history leaves: of the entries added, those beyond the first as many as there were calls
that found one, which have been told them one by one; the fallback set last; and all requests. -/
structure Kept (b : Booth σ Req Resp F) (name : String) (s : σ)
    (events : List (Event σ Req Resp F)) : Prop where
  adapter : b.place.get (b.run s events).2 =
    ⟨name, (entries events).drop (b.served s events).length, standing events, requests events⟩
  enough : (b.served s events).length ≤ (entries events).length
  told : (b.served s events).map Called.result =
    ((entries events).take (b.served s events).length).map (Scripted.result name)
  asked : (b.run s events).1.map Called.request = requests events

/-- An event that is no call keeps this, if it changes the adapter by what it adds. -/
theorem Kept.quiet {name : String} {s : σ} {events : List (Event σ Req Resp F)}
    {e : Event σ Req Resp F} (kept : Kept b name s events)
    (none : (b.happen (b.run s events).2 e).1 = none) (request : request? e = Option.none)
    (changed : b.place.get (b.happen (b.run s events).2 e).2 =
      { b.place.get (b.run s events).2 with
        script := (b.place.get (b.run s events).2).script ++ (added? e).toList
        fallback := (fallback? e).or (b.place.get (b.run s events).2).fallback }) :
    Kept b name s (events ++ [e]) := by
  have same : b.served s (events ++ [e]) = b.served s events := by simp [served_concat, none]
  refine ⟨?_, ?_, ?_, ?_⟩
  · rw [run_concat, changed, kept.adapter, same, entries_concat, standing_concat, requests_concat,
      request, List.drop_append_of_le_length kept.enough]
    simp
  · rw [same, entries_concat, List.length_append]
    exact Nat.le_add_right_of_le kept.enough
  · rw [same, kept.told, entries_concat, List.take_append_of_le_length kept.enough]
  · rw [run_concat, requests_concat, none, request]
    simpa using kept.asked

/-- A call is told by the entry that is next, if there is one. -/
theorem Kept.happen_call (aside : b.Aside) {name : String} {s : σ}
    {events : List (Event σ Req Resp F)} (kept : Kept b name s events) (request : Req) :
    (b.happen (b.run s events).2 (.call request)).1 = some ⟨(b.run s events).2, request,
      b.told name (entries events)[(b.served s events).length]? (standing events)
        (requests events).length request (b.run s events).2⟩ := by
  rw [(Booth.happen_call aside kept.adapter request).1, List.head?_drop]

/-- A call keeps this: it is told the first entry that is left, if there is one. -/
theorem Kept.call (aside : b.Aside) {name : String} {s : σ} {events : List (Event σ Req Resp F)}
    (kept : Kept b name s events) (request : Req) :
    Kept b name s (events ++ [.call request]) := by
  have happened := kept.happen_call aside request
  have after := (Booth.happen_call aside kept.adapter request).2
  have left : (b.place.get (b.run s events).2).script =
      (entries events).drop (b.served s events).length := by rw [kept.adapter]
  have more := served_concat b s events (.call request)
  rw [happened, Option.toList_some, List.filter_cons, Called.served, left, List.filter_nil] at more
  have added : entries (events ++ [Event.call request]) = entries events := by
    simp [entries_concat, added?]
  have stays : standing (events ++ [Event.call request]) = standing events := by
    simp [standing_concat, fallback?]
  have requested : requests (events ++ [Event.call request]) = requests events ++ [request] := by
    simp [requests_concat, request?]
  have asked : (b.run s (events ++ [.call request])).1.map Called.request =
      requests (events ++ [.call request]) := by
    rw [run_concat, happened, List.map_append, kept.asked, requested]
    rfl
  by_cases enough : (b.served s events).length < (entries events).length
  · -- The call finds an entry.
    rw [List.getElem?_eq_getElem enough, List.drop_eq_getElem_cons enough] at more
    simp only [List.isEmpty_cons, Bool.not_false, if_true] at more
    refine ⟨?_, ?_, ?_, asked⟩
    · rw [run_concat, more, added, stays, requested, after, List.tail_drop, List.length_append]
      rfl
    · rw [more, added, List.length_append]
      exact enough
    · rw [more, added, List.length_append, List.length_singleton,
        List.take_succ_eq_append_getElem enough, List.map_append, List.map_append, ← kept.told]
      rfl
  · -- All entries have been told: the call finds none.
    have all : (entries events).drop (b.served s events).length = [] :=
      List.drop_eq_nil_of_le (Nat.le_of_not_lt enough)
    have same : b.served s (events ++ [.call request]) = b.served s events := by
      simpa [all] using more
    refine ⟨?_, by rw [same, added]; exact kept.enough, by rw [same, added, kept.told], asked⟩
    rw [run_concat, same, added, stays, requested, after, all, List.tail_nil]

/-- **All events.** -/
theorem kept_run (aside : b.Aside) {name : String} {s : σ} (fresh : b.place.get s = .named name)
    (events : List (Event σ Req Resp F)) (elsewhere : b.Elsewhere events) :
    Kept b name s events := by
  induction events using List.reverseRecOn with
  | nil => exact ⟨by rw [run, fresh]; rfl, Nat.le_refl _, rfl, rfl⟩
  | append_singleton events e ih =>
    have kept := ih fun act mem => elsewhere act (List.mem_append_left _ mem)
    cases e with
    | respond r =>
      refine kept.quiet rfl rfl ?_
      simp [happen, get_change aside, Adapter.push, added?, fallback?]
    | fail message =>
      refine kept.quiet rfl rfl ?_
      simp [happen, get_change aside, Adapter.push, added?, fallback?]
    | fallback f =>
      refine kept.quiet rfl rfl ?_
      simp [happen, get_change aside, Adapter.setFallback, added?, fallback?]
    | call request => exact kept.call aside request
    | elsewhere act =>
      refine kept.quiet rfl rfl ?_
      simp [happen, elsewhere act (by simp), added?, fallback?]

/-- What holds of a history of an adapter of a name. -/
structure Serves (b : Booth σ Req Resp F) (name : String) (s : σ)
    (events : List (Event σ Req Resp F)) : Prop where
  /-- The calls that found an entry in the script have been told the entries added, one each, in
  the order in which they were added. -/
  delivered : (b.served s events).map Called.result =
    ((entries events).take (b.served s events).length).map (Scripted.result name)
  /-- The script holds the other entries added. -/
  remaining : (b.place.get (b.run s events).2).script =
    (entries events).drop (b.served s events).length
  /-- No entry is lost or told twice. -/
  balance : (entries events).length =
    (b.served s events).length + (b.place.get (b.run s events).2).script.length
  /-- All requests are kept in order, whatever has become of them. -/
  calls : (b.place.get (b.run s events).2).calls = requests events
  /-- The calls made are those of the history. -/
  asked : (b.run s events).1.map Called.request = requests events
  /-- There are as many requests kept as calls made. -/
  count : (b.place.get (b.run s events).2).calls.length = (b.run s events).1.length
  /-- A call finds the entries added before it but those that calls before it have been told, is
  told by the first of them, and without one by the fallback set last before it; without either it
  is not in the script, under the number of calls before it. -/
  called : ∀ (before later : List (Event σ Req Resp F)) (request : Req),
    events = before ++ .call request :: later →
    ∃ c, (b.run s events).1[(requests before).length]? = some c ∧ c.request = request ∧
      c.before = (b.run s before).2 ∧
      (b.place.get c.before).script = (entries before).drop (b.served s before).length ∧
      c.result = b.told name (entries before)[(b.served s before).length]? (standing before)
        (requests before).length request c.before

/-- **A script in order.** Whatever is added to the script of an adapter, set as its fallback and
called, in whatever order: the calls are told the entries of the script in the order in which they
were added, then by the fallback, and all of them are kept. -/
theorem serves_in_order (b : Booth σ Req Resp F) (aside : b.Aside) (name : String) (s : σ)
    (fresh : b.place.get s = .named name) (events : List (Event σ Req Resp F))
    (elsewhere : b.Elsewhere events) : b.Serves name s events := by
  have kept := kept_run aside fresh events elsewhere
  have remaining : (b.place.get (b.run s events).2).script =
      (entries events).drop (b.served s events).length := by rw [kept.adapter]
  have calls : (b.place.get (b.run s events).2).calls = requests events := by rw [kept.adapter]
  refine ⟨kept.told, remaining, ?_, calls, kept.asked, ?_, ?_⟩
  · have enough := kept.enough
    rw [remaining, List.length_drop]
    omega
  · rw [calls, ← kept.asked, List.length_map]
  · rintro before later request rfl
    have earlier := kept_run aside fresh before fun act mem =>
      elsewhere act (List.mem_append_left _ mem)
    have made := earlier.happen_call aside request
    -- The calls before it stand before it, as many as they made requests.
    have position : (b.run s before).1.length = (requests before).length := by
      rw [← earlier.asked, List.length_map]
    have found : (b.run s (before ++ .call request :: later)).1[(requests before).length]? =
        (b.happen (b.run s before).2 (.call request)).1 := by
      rw [run_append, run, made, ← position, List.getElem?_append_right (Nat.le_refl _),
        Nat.sub_self]
      rfl
    rw [made] at found
    exact ⟨_, found, rfl, rfl, congrArg Adapter.script earlier.adapter, rfl⟩

/-- An adapter beside a count of the calls that were heard of. A fallback puts its own text before
the request; it refuses a request that is empty. -/
def counted : Booth (Adapter String String String × Nat) String String String where
  place := ⟨Prod.fst, fun a s => (a, s.2)⟩
  report := fun _ _ s => ((), s.1, s.2 + 1)
  answer := fun f request s =>
    (if request.isEmpty then .error (.scripted "counted" f) else .ok (f ++ request), s)

/-- Two entries and five calls: one before there is any entry, and two after all have been told. -/
def countedEvents : List (Event (Adapter String String String × Nat) String String String) :=
  [.call "a", .respond "first", .fail "second", .call "b", .elsewhere fun s => ((), s.1, 9),
    .fallback "old ", .fallback "new ", .call "c", .call "d", .call ""]

theorem counted_in_order :
    counted.Aside ∧ counted.Elsewhere countedEvents ∧
      counted.Serves "mail" (.named "mail", 0) countedEvents ∧
      (counted.run (.named "mail", 0) countedEvents).1.map Called.result =
        [.error (.unscripted "mail" 0), .ok "first", .error (.scripted "mail" "second"),
          .ok "new d", .error (.scripted "counted" "new ")] := by
  have aside : counted.Aside :=
    ⟨⟨fun _ _ => rfl, fun _ _ _ => rfl, fun _ => rfl⟩, fun _ _ _ => rfl, fun _ _ _ => rfl⟩
  have elsewhere : counted.Elsewhere countedEvents := by
    intro act mem s
    simp only [countedEvents, List.mem_cons, reduceCtorEq, List.not_mem_nil,
      Event.elsewhere.injEq, false_or, or_false] at mem
    subst mem
    rfl
  exact ⟨aside, elsewhere, serves_in_order counted aside "mail" (.named "mail", 0) rfl _ elsewhere,
    by decide⟩

end Booth

end HostBench
