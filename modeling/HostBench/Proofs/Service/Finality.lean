/-
  The release of the services is final. At each moment of each run, whatever the factories and the
  clients do, the log tells the release from all that comes before and after it
  (`Kitchen.Passes.release_is_final`). Before, nothing is refused as disposed of, as long as no factory
  makes up such an answer (`Kitchen.Honest`). After it everything is refused, and nothing brings the
  services back.

  The services are taken back at once, and those that are let go do what they do after that
  (`Host.release_eq_run`). So what destructors do in the middle of a release is, in a recipe, a part of
  what follows the release.
-/
import HostBench.Host
import HostBench.Proofs.Service.Overtaken

namespace HostBench

variable {E V F α : Type}

/-! ## Honest factories -/

/-- The answer does not say that something is disposed of. -/
def Undisposed (answer : Except ResolveError V) : Prop := ∀ d, answer ≠ .error (.disposed d)

/-- A recipe comes to a fair end as long as it meets with nothing that is disposed of, neither with a
released provider nor with an answer that says so. -/
def Recipe.Honest {within : Capability → Prop} (fair : α → Prop) : Recipe E V F within α → Prop
  | .done a => fair a
  | .act _ next => ∀ e, (next e).Honest fair
  | .look next => ∀ p, p.isReleased = false → (next p).Honest fair
  | .get _ _ next => ∀ answer, Undisposed answer → (next answer).Honest fair
  | .release _ => True

theorem Recipe.honest_of_forall {within : Capability → Prop} {fair : α → Prop} (all : ∀ a, fair a)
    (recipe : Recipe E V F within α) : recipe.Honest fair := by
  induction recipe with
  | done a => exact all a
  | act change next ih => exact ih
  | look next ih => exact fun p _ => ih p
  | get key allowed next ih => exact fun answer _ => ih answer
  | release next => trivial

/-- No factory says on its own that something is disposed of. -/
def Kitchen.Honest (k : Kitchen E V F) : Prop := ∀ key f, (k.recipe key f).Honest Undisposed

/-! ## Each moment of a run -/

/-- A recipe passes a moment when it is followed from one workshop on, be it to its end or not. -/
inductive Kitchen.Passes (k : Kitchen E V F) : {within : Capability → Prop} → {α : Type} →
    Recipe E V F within α → Workshop E V F → Workshop E V F → Prop
  | here {within : Capability → Prop} {α : Type} {recipe : Recipe E V F within α}
      {w : Workshop E V F} : Passes k recipe w w
  | act {within : Capability → Prop} {α : Type} {change : E → E} {next : E → Recipe E V F within α}
      {w w' : Workshop E V F}
      (later : Passes k (next w.around) { w with around := change w.around } w') :
      Passes k (.act change next) w w'
  | look {within : Capability → Prop} {α : Type} {next : Provider V F → Recipe E V F within α}
      {w w' : Workshop E V F}
      (later : Passes k (next w.provider) (w.noting [.looked w.provider]) w') :
      Passes k (.look next) w w'
  /-- The factory of what is resolved passes the moment. -/
  | inside {within : Capability → Prop} {α : Type} {key : Capability} {allowed : within key}
      {next : Except ResolveError V → Recipe E V F within α} {w w' : Workshop E V F}
      {lifetime : ServiceLifetime} {f : F} (toMake : w.provider.lookup key = .toMake lifetime f)
      (during : Passes k (k.recipe key f) (w.noting
        [.asked w.log.length key (w.provider.keeps key), .called w.log.length key]) w') :
      Passes k (.get key allowed next) w w'
  | get {within : Capability → Prop} {α : Type} {key : Capability} {allowed : within key}
      {next : Except ResolveError V → Recipe E V F within α} {w w' : Workshop E V F}
      {make : F → StateM (Workshop E V F) (Except ResolveError V)}
      (made : ∀ lifetime f, w.provider.lookup key = .toMake lifetime f →
        k.Follows (k.recipe key f)
          (w.noting [.asked w.log.length key (w.provider.keeps key), .called w.log.length key])
          (make f (w.noting [.asked w.log.length key (w.provider.keeps key),
            .called w.log.length key])).1
          (make f (w.noting [.asked w.log.length key (w.provider.keeps key),
            .called w.log.length key])).2)
      (later : Passes k (next (Workshop.resolve make key w).1) (Workshop.resolve make key w).2 w') :
      Passes k (.get key allowed next) w w'
  | release {within : Capability → Prop} {α : Type} {next : Nat → Recipe E V F within α}
      {w w' : Workshop E V F}
      (later : Passes k (next w.provider.release.2)
        { w.noting [.released w.provider.release.2] with provider := w.provider.release.1 } w') :
      Passes k (.release next) w w'

/-- A recipe passes its end. -/
theorem Kitchen.Follows.passes {k : Kitchen E V F} {within : Capability → Prop}
    {recipe : Recipe E V F within α} {w w' : Workshop E V F} {a : α} (ends : k.Follows recipe w a w') :
    k.Passes recipe w w' := by
  induction ends with
  | done => exact .here
  | act _ ih => exact .act ih
  | look _ ih => exact .look ih
  | get inside _ _ ih => exact .get inside ih
  | release _ ih => exact .release ih

/-! ## Before and after -/

namespace Mark

/-- The services are released. -/
def isRelease : Mark V F → Bool
  | .released _ => true
  | _ => false

/-- What is left in the log before the release. -/
def Before (r : Registry V F) : Mark V F → Prop
  | .asked .. | .called .. | .created .. => True
  | .made _ _ answer | .answered _ _ answer => Undisposed answer
  | .looked p =>
    p.isReleased = false ∧ p.types = .ok r.types ∧ ∀ key, p.contains key = r.contains key
  | .released count => count = r.size

/-- What is left in the log after the release, with what comes next. -/
def After (next : Option (Mark V F)) : Mark V F → Prop
  | .asked id key _ => ∃ answer, next = some (.answered id key answer) ∧
    answer = .error (.disposed ⟨"resolve"⟩) ∧ answer.toOption = none
  | .called .. => False
  | .made .. | .created .. | .answered .. => True
  | .looked p =>
    p.isReleased = true ∧ p.types = .error ⟨"registered_types"⟩ ∧ ∀ key, p.contains key = false
  | .released count => count = 0

/-- What is left in the log before the release or after it. -/
def Fits (r : Registry V F) (gone : Bool) (next : Option (Mark V F)) (m : Mark V F) : Prop :=
  if gone = true then m.After next else m.Before r

theorem Fits.weaken {r : Registry V F} {gone : Bool} {m : Mark V F} (fits : m.Fits r gone none)
    (next : Option (Mark V F)) : m.Fits r gone next := by
  cases gone with
  | false => exact fits
  | true =>
    cases m with
    | asked id key cached =>
      obtain ⟨answer, impossible, -⟩ := fits
      simp at impossible
    | _ => exact fits

end Mark

/-- From one workshop to the next, with what is left in the log in between. -/
structure Passage (r : Registry V F) (w w' : Workshop E V F) (l : List (Mark V F)) : Prop where
  log_eq : w'.log = w.log ++ l
  of : w'.provider.Of r
  isReleased_eq : w'.provider.isReleased = (w.provider.isReleased || l.any Mark.isRelease)
  fits : ∀ (i : Nat) (m : Mark V F), l[i]? = some m →
    m.Fits r (w.provider.isReleased || (l.take i).any Mark.isRelease) l[i + 1]?

namespace Passage

variable {r : Registry V F} {w w' w'' : Workshop E V F} {l m : List (Mark V F)}

/-- What was released stays so. -/
theorem live_of_live (passage : Passage r w w' l) (live : w'.provider.isReleased = false) :
    w.provider.isReleased = false := by
  have whole := passage.isReleased_eq
  rw [live] at whole
  exact (Bool.or_eq_false_iff.mp whole.symm).1

theorem trans (first : Passage r w w' l) (second : Passage r w' w'' m) :
    Passage r w w'' (l ++ m) where
  log_eq := by rw [second.log_eq, first.log_eq, List.append_assoc]
  of := second.of
  isReleased_eq := by
    rw [second.isReleased_eq, first.isReleased_eq, List.any_append, Bool.or_assoc]
  fits := by
    intro i x found
    rcases Nat.lt_or_ge i l.length with before | after
    · rw [List.getElem?_append_left before] at found
      rw [List.take_append_of_le_length (Nat.le_of_lt before)]
      have own := first.fits i x found
      rcases Nat.lt_or_ge (i + 1) l.length with further | last
      · rwa [List.getElem?_append_left further]
      · rw [List.getElem?_eq_none last] at own
        exact own.weaken _
    · rw [List.getElem?_append_right after] at found
      have own := second.fits (i - l.length) x found
      rw [first.isReleased_eq, Bool.or_assoc, ← List.any_append] at own
      rw [List.getElem?_append_right (by omega), List.take_append, List.take_of_length_le after,
        show i + 1 - l.length = i - l.length + 1 by omega]
      exact own

/-- Nothing is released, and the marks fit whatever comes next. -/
theorem quiet (log_eq : w'.log = w.log ++ l) (of : w'.provider.Of r)
    (same : w'.provider.isReleased = w.provider.isReleased)
    (fits : ∀ m ∈ l, m.isRelease = false ∧ m.Fits r w.provider.isReleased none) :
    Passage r w w' l where
  log_eq := log_eq
  of := of
  isReleased_eq := by
    have none_released : l.any Mark.isRelease = false :=
      List.any_eq_false.mpr fun m hm => by simp [(fits m hm).1]
    rw [same, none_released, Bool.or_false]
  fits := by
    intro i m found
    have none_released : (l.take i).any Mark.isRelease = false :=
      List.any_eq_false.mpr fun m hm => by simp [(fits m (List.mem_of_mem_take hm)).1]
    rw [none_released, Bool.or_false]
    exact (fits m (List.mem_of_getElem? found)).2.weaken _

theorem refl (of : w.provider.Of r) : Passage r w w [] :=
  .quiet (List.append_nil _).symm of rfl (by simp)

theorem looked (of : w.provider.Of r) :
    Passage r w (w.noting [.looked w.provider]) [.looked w.provider] := by
  refine .quiet rfl of rfl fun m hm => ?_
  rw [List.mem_singleton.mp hm]
  refine ⟨rfl, ?_⟩
  rcases of with gone | ⟨kept, holds⟩
  · rw [Provider.eq_released gone]
    exact ⟨rfl, rfl, fun _ => rfl⟩
  · rw [holds]
    exact ⟨rfl, rfl, fun _ => rfl⟩

theorem released (of : w.provider.Of r) : Passage r w
    { w.noting [.released w.provider.release.2] with provider := w.provider.release.1 }
    [.released w.provider.release.2] where
  log_eq := rfl
  of := .inl rfl
  isReleased_eq := by simp [Provider.release, Provider.released, Provider.isReleased, Mark.isRelease]
  fits := by
    intro i m found
    cases i with
    | succ i => simp at found
    | zero =>
      cases found
      rw [List.take_zero, List.any_nil, Bool.or_false]
      rcases of with gone | ⟨kept, holds⟩
      · rw [Provider.eq_released gone]
        rfl
      · rw [holds]
        rfl

/-- A resolution that calls no factory is answered at once. -/
theorem settled {key : Capability} {cached : Bool} {answer : Except ResolveError V}
    (of : w.provider.Of r)
    (refused : w.provider.isReleased = true → answer = .error (.disposed ⟨"resolve"⟩))
    (fair : w.provider.isReleased = false → Undisposed answer) :
    Passage r w (w.noting [.asked w.log.length key cached, .answered w.log.length key answer])
      [.asked w.log.length key cached, .answered w.log.length key answer] where
  log_eq := rfl
  of := of
  isReleased_eq := (Bool.or_false _).symm
  fits := by
    intro i m found
    cases gone : w.provider.isReleased with
    | false =>
      match i with
      | 0 => cases found; trivial
      | 1 => cases found; exact fair gone
      | i + 2 => simp at found
    | true =>
      match i with
      | 0 => cases found; exact ⟨answer, rfl, refused gone, by rw [refused gone]; rfl⟩
      | 1 => cases found; trivial
      | i + 2 => simp at found

/-- A factory is called, as long as nothing is released. -/
theorem called (of : w.provider.Of r) (live : w.provider.isReleased = false) (key : Capability) :
    Passage r w
      (w.noting [.asked w.log.length key (w.provider.keeps key), .called w.log.length key])
      [.asked w.log.length key (w.provider.keeps key), .called w.log.length key] := by
  refine .quiet rfl of rfl fun m hm => ?_
  rw [live]
  simp only [List.mem_cons, List.not_mem_nil, or_false] at hm
  rcases hm with rfl | rfl <;> exact ⟨rfl, trivial⟩

/-- A factory returns, and what it has made is accepted. -/
theorem accepted {id : Nat} {key : Capability} {lifetime : ServiceLifetime}
    {result : Except ResolveError V} (of : w.provider.Of r)
    (fair : w.provider.isReleased = false → Undisposed result)
    (answered : w.provider.isReleased = false → Undisposed (w.provider.accept key lifetime result).1) :
    Passage r w ({ w with provider := (w.provider.accept key lifetime result).2 }.noting
        (Mark.ending id key lifetime result (w.provider.accept key lifetime result).1))
      (Mark.ending id key lifetime result (w.provider.accept key lifetime result).1) := by
  refine .quiet rfl (of.accept key lifetime result) (Provider.isReleased_accept ..) fun m hm => ?_
  cases gone : w.provider.isReleased with
  | true =>
    cases result <;> simp only [Mark.ending, List.mem_cons, List.not_mem_nil, or_false] at hm
    · rcases hm with rfl | rfl <;> exact ⟨rfl, trivial⟩
    · rcases hm with rfl | rfl | rfl <;> exact ⟨rfl, trivial⟩
  | false =>
    cases result <;> simp only [Mark.ending, List.mem_cons, List.not_mem_nil, or_false] at hm
    · rcases hm with rfl | rfl
      · exact ⟨rfl, fair gone⟩
      · exact ⟨rfl, answered gone⟩
    · rcases hm with rfl | rfl | rfl
      · exact ⟨rfl, fair gone⟩
      · exact ⟨rfl, trivial⟩
      · exact ⟨rfl, answered gone⟩

end Passage

theorem undisposed_ok (v : V) : Undisposed (.ok v) := by
  intro d
  simp

/-- Where nothing is released, the answer is as fair as the result of the factory. -/
theorem Provider.undisposed_accept {r : Registry V F} {kept : List (Capability × V)}
    {result : Except ResolveError V} (fair : Undisposed result) (key : Capability)
    (lifetime : ServiceLifetime) : Undisposed ((holding r kept).accept key lifetime result).1 := by
  cases result with
  | error e =>
    intro d same
    rw [accept, Except.error.injEq, ResolveError.through_eq_disposed_iff] at same
    exact fair d (congrArg Except.error same)
  | ok v =>
    rcases accept_ok_cases r kept key lifetime v with ⟨u, accepted⟩ | accepted
    · rw [accepted]
      exact undisposed_ok u
    · rw [accepted]
      exact undisposed_ok v

theorem Provider.Of.holds_of_live {r : Registry V F} {p : Provider V F} (of : p.Of r)
    (live : p.isReleased = false) : ∃ kept, p = holding r kept := by
  refine of.resolve_left fun gone => ?_
  simp [gone] at live

theorem Provider.live_of_toMake {p : Provider V F} {key : Capability} {lifetime : ServiceLifetime}
    {f : F} (toMake : p.lookup key = .toMake lifetime f) : p.isReleased = false := by
  cases gone : p.isReleased with
  | false => rfl
  | true => simp [eq_released gone] at toMake

namespace Kitchen

variable {k : Kitchen E V F} {r : Registry V F}

/-- A resolution, if what its factory does is fair. -/
theorem passage_resolve {make : F → StateM (Workshop E V F) (Except ResolveError V)} {key : Capability}
    {w : Workshop E V F} (of : w.provider.Of r)
    (inner : ∀ lifetime f, w.provider.lookup key = .toMake lifetime f →
      (∃ l, Passage r
        (w.noting [.asked w.log.length key (w.provider.keeps key), .called w.log.length key])
        (make f (w.noting [.asked w.log.length key (w.provider.keeps key),
          .called w.log.length key])).2 l) ∧
      ((make f (w.noting [.asked w.log.length key (w.provider.keeps key),
          .called w.log.length key])).2.provider.isReleased = false →
        Undisposed (make f (w.noting [.asked w.log.length key (w.provider.keeps key),
          .called w.log.length key])).1)) :
    (∃ l, Passage r w (Workshop.resolve make key w).2 l) ∧
      ((Workshop.resolve make key w).2.provider.isReleased = false →
        Undisposed (Workshop.resolve make key w).1) := by
  cases looked : w.provider.lookup key with
  | found v =>
    rw [Workshop.resolve_of_found looked]
    refine ⟨⟨_, .settled of (fun gone => ?_) fun _ => undisposed_ok v⟩, fun _ => undisposed_ok v⟩
    simp [Provider.eq_released gone] at looked
  | refused e =>
    have fair : w.provider.isReleased = false → Undisposed (.error e : Except ResolveError V) := by
      intro live d same
      obtain ⟨kept, holds⟩ := of.holds_of_live live
      rw [holds] at looked
      obtain ⟨-, -, rfl⟩ := Provider.holding_of_refused looked
      simp at same
    rw [Workshop.resolve_of_refused looked]
    refine ⟨⟨_, .settled of (fun gone => ?_) fair⟩, fair⟩
    simpa [Provider.eq_released gone, eq_comm] using looked
  | toMake lifetime f =>
    have begins := Passage.called of (Provider.live_of_toMake looked) key
    obtain ⟨⟨l, inside⟩, fair⟩ := inner lifetime f looked
    cases made : make f (w.noting [.asked w.log.length key (w.provider.keeps key),
        .called w.log.length key]) with
    | mk result w' =>
      rw [made] at inside fair
      have answered : w'.provider.isReleased = false →
          Undisposed (w'.provider.accept key lifetime result).1 := by
        intro still
        obtain ⟨kept, holds⟩ := inside.of.holds_of_live still
        rw [holds]
        exact Provider.undisposed_accept (fair still) key lifetime
      rw [Workshop.resolve_of_toMake looked made]
      refine ⟨⟨_, (begins.trans inside).trans (.accepted inside.of fair answered)⟩, fun still => ?_⟩
      refine answered ?_
      rw [← Provider.isReleased_accept]
      exact still

/-- A recipe that was honest goes on honestly after a resolution, if nothing is released. -/
theorem honest_of_resolved {within : Capability → Prop} {key : Capability} {allowed : within key}
    {next : Except ResolveError V → Recipe E V F within α} {fair : α → Prop}
    {w w' : Workshop E V F} {l : List (Mark V F)} {answer : Except ResolveError V}
    (start : w.provider.isReleased = true ∨ (Recipe.get key allowed next).Honest fair)
    (passage : Passage r w w' l) (answered : w'.provider.isReleased = false → Undisposed answer) :
    w'.provider.isReleased = true ∨ (next answer).Honest fair := by
  cases gone : w'.provider.isReleased with
  | true => exact .inl rfl
  | false =>
    have before := passage.live_of_live gone
    have fine := start.resolve_left (by simp [before])
    exact .inr (fine answer (answered gone))

theorem honest_of_looked {within : Capability → Prop} {next : Provider V F → Recipe E V F within α}
    {fair : α → Prop} {w : Workshop E V F}
    (start : w.provider.isReleased = true ∨ (Recipe.look next).Honest fair) :
    w.provider.isReleased = true ∨ (next w.provider).Honest fair := by
  rcases start with gone | fine
  · exact .inl gone
  · cases gone : w.provider.isReleased with
    | true => exact .inl rfl
    | false => exact .inr (fine w.provider gone)

/-- What is followed to its end, from an honest recipe or after the release, is fair as long as nothing
is released. -/
theorem Follows.passage {within : Capability → Prop} {recipe : Recipe E V F within α}
    {w w' : Workshop E V F} {a : α} (honest : k.Honest) (ends : k.Follows recipe w a w')
    (of : w.provider.Of r) {fair : α → Prop}
    (start : w.provider.isReleased = true ∨ recipe.Honest fair) :
    (∃ l, Passage r w w' l) ∧ (w'.provider.isReleased = false → fair a) := by
  induction ends with
  | done =>
    exact ⟨⟨[], .refl of⟩, fun live => start.resolve_left (by simp [live])⟩
  | act _ ih =>
    obtain ⟨⟨l, rest⟩, last⟩ := ih of (start.imp_right fun fine => fine _)
    exact ⟨⟨l, { rest with }⟩, last⟩
  | look _ ih =>
    obtain ⟨⟨l, rest⟩, last⟩ := ih of (honest_of_looked start)
    exact ⟨⟨_, (Passage.looked of).trans rest⟩, last⟩
  | get _ _ inner ih =>
    obtain ⟨⟨l, first⟩, answered⟩ := passage_resolve of fun lifetime f toMake =>
      inner lifetime f toMake of (.inr (honest _ f))
    obtain ⟨⟨m, rest⟩, last⟩ := ih first.of (honest_of_resolved start first answered)
    exact ⟨⟨_, first.trans rest⟩, last⟩
  | release _ ih =>
    obtain ⟨⟨l, rest⟩, last⟩ := ih (.inl rfl) (.inl rfl)
    exact ⟨⟨_, (Passage.released of).trans rest⟩, last⟩

theorem Passes.passage {within : Capability → Prop} {recipe : Recipe E V F within α}
    {w w' : Workshop E V F} (honest : k.Honest) (passes : k.Passes recipe w w')
    (of : w.provider.Of r) (fair : α → Prop)
    (start : w.provider.isReleased = true ∨ recipe.Honest fair) : ∃ l, Passage r w w' l := by
  induction passes with
  | here => exact ⟨[], .refl of⟩
  | act _ ih =>
    obtain ⟨l, rest⟩ := ih of fair (start.imp_right fun fine => fine _)
    exact ⟨l, { rest with }⟩
  | look _ ih =>
    obtain ⟨l, rest⟩ := ih of fair (honest_of_looked start)
    exact ⟨_, (Passage.looked of).trans rest⟩
  | inside toMake _ ih =>
    obtain ⟨l, inside⟩ := ih of Undisposed (.inr (honest _ _))
    exact ⟨_, (Passage.called of (Provider.live_of_toMake toMake) _).trans inside⟩
  | get made _ ih =>
    obtain ⟨⟨l, first⟩, answered⟩ := passage_resolve of fun lifetime f toMake =>
      (made lifetime f toMake).passage honest of (.inr (honest _ f))
    obtain ⟨m, rest⟩ := ih first.of fair (honest_of_resolved start first answered)
    exact ⟨_, first.trans rest⟩
  | release _ ih =>
    obtain ⟨l, rest⟩ := ih (.inl rfl) fair (.inl rfl)
    exact ⟨_, (Passage.released of).trans rest⟩

/-! ## The release is final -/

end Kitchen

/-- What is to be said of a workshop at any moment of a run. -/
structure Final (r : Registry V F) (w : Workshop E V F) : Prop where
  /-- Before the release nothing is refused as disposed of, and whoever looks sees what is registered.
  The first release answers how much that is. -/
  before : ∀ i m, w.log[i]? = some m → (w.log.take i).any Mark.isRelease = false → m.Before r
  /-- After the release, whoever asks is refused at once; nobody sees anything any more, and a further
  release finds nothing. -/
  after : ∀ i m, w.log[i]? = some m → (w.log.take i).any Mark.isRelease = true →
    m.After w.log[i + 1]?
  /-- Services that have been released stay so. -/
  isReleased_eq : w.provider.isReleased = w.log.any Mark.isRelease

/-- Whatever clients and factories do, and at whatever moment: the release of the services is final,
and before it nothing is disposed of. -/
theorem Kitchen.release_is_final {k : Kitchen E V F} (honest : k.Honest)
    {client : Cookbook.Client E V F α} {r : Registry V F} {around : E} {w : Workshop E V F}
    (passes : k.Passes client (.ofRegistry r around) w) : Final r w := by
  have fine : client.Honest fun _ => True := Recipe.honest_of_forall (fun _ => trivial) client
  obtain ⟨l, passage⟩ := passes.passage (r := r) honest (.inr ⟨[], rfl⟩) (fun _ => True) (.inr fine)
  have whole : w.log = l := passage.log_eq
  subst whole
  have live : (Workshop.ofRegistry r around : Workshop E V F).provider.isReleased = false := rfl
  refine ⟨fun i m found early => ?_, fun i m found late => ?_, ?_⟩
  · have fits := passage.fits i m found
    rw [live, early] at fits
    exact fits
  · have fits := passage.fits i m found
    rw [live, late] at fits
    exact fits
  · rw [passage.isReleased_eq, live, Bool.false_or]

/-! ## Services that are let go -/

/-- One recipe after the other. -/
def Recipe.andThen {within : Capability → Prop} :
    Recipe E V F within Unit → Recipe E V F within α → Recipe E V F within α
  | .done _, last => last
  | .act change next, last => .act change fun e => (next e).andThen last
  | .look next, last => .look fun p => (next p).andThen last
  | .get key allowed next, last => .get key allowed fun answer => (next answer).andThen last
  | .release next, last => .release fun count => (next count).andThen last

theorem Recipe.run_andThen {within : Capability → Prop}
    (resolve : (key : Capability) → within key → StateM (Workshop E V F) (Except ResolveError V))
    (first : Recipe E V F within Unit) (last : Recipe E V F within α) (w : Workshop E V F) :
    (first.andThen last).run resolve w = last.run resolve (first.run resolve w).2 := by
  induction first generalizing w with
  | done => rfl
  | act change next ih => exact ih _ _
  | look next ih => exact ih _ _
  | get key allowed next ih => exact ih _ _
  | release next ih => exact ih _ _

/-- Where the provider of a workshop is kept; to write there leaves the mark of a release. -/
def Workshop.exit : Place (Workshop E V F) (Provider V F) :=
  ⟨provider, fun p w => { w.noting [.released w.provider.size] with provider := p }⟩

/-- A host that releases its services follows a recipe: they are taken back at once, and after that the
services that are let go do what they do. -/
theorem Host.release_eq_run {H ρ W : Type} {within : Capability → Prop}
    (stage : HostStage (Workshop E V F) H ρ V F W) (h : Host)
    (resolve : (key : Capability) → within key → StateM (Workshop E V F) (Except ResolveError V))
    (farewell : Recipe E V F within Unit) (exits : stage.provider h.provider = Workshop.exit)
    (lets_go : stage.discard = farewell.run resolve) :
    h.release stage = (Recipe.release fun count => farewell.andThen (.done count)).run resolve := by
  funext w
  have later := Recipe.run_andThen resolve farewell (.done w.provider.size)
    { w.noting [.released w.provider.size] with provider := .released }
  show _ = (farewell.andThen (.done w.provider.size)).run resolve
    { w.noting [.released w.provider.size] with provider := .released }
  rw [later]
  unfold Host.release
  rw [exits, lets_go]
  rfl

/-! ## Moving out -/

namespace Moving

def lamp : Capability := ⟨"lamp"⟩
def desk : Capability := ⟨"desk"⟩

def registry : Registry String Unit := ⟨[(lamp, .fixed "lamp"), (desk, .singleton ())]⟩

/-- The desk stands in the light of the lamp. -/
def cookbook : Cookbook Nat String Unit where
  rank key := if key = desk then 1 else 0
  recipe key _ :=
    if lit : key = desk then
      .get lamp (by rw [lit]; decide) fun
        | .error e => .done (.error e)
        | .ok light => .done (.ok ("desk and " ++ light))
    else .done (.ok "nothing")

/-- Whoever leaves reaches for the lamp, looks back and closes the door once more. -/
def farewell : Cookbook.Client Nat String Unit Unit :=
  .tryGet lamp trivial fun _ => .look fun _ => .release fun _ => .done ()

def client : Cookbook.Client Nat String Unit Nat :=
  .get desk trivial fun _ =>
  .release fun count =>
  farewell.andThen (.tryGet desk trivial fun _ => .done count)

theorem honest : cookbook.kitchen.Honest := by
  intro key f
  show (cookbook.recipe key f).Honest Undisposed
  unfold cookbook
  dsimp only
  split
  · intro answer fair
    cases answer with
    | error e => exact fair
    | ok light => exact undisposed_ok _
  · exact undisposed_ok _

end Moving

theorem moving_out_is_final :
    let w := (Moving.cookbook.serve Moving.client (.ofRegistry Moving.registry 0)).2
    Moving.cookbook.kitchen.Honest ∧
      Moving.cookbook.kitchen.Passes Moving.client (.ofRegistry Moving.registry 0) w ∧
      Final Moving.registry w := by
  intro w
  have passes := (Moving.cookbook.follows_serve Moving.client (.ofRegistry Moving.registry 0)).passes
  exact ⟨Moving.honest, passes, Kitchen.release_is_final Moving.honest passes⟩

end HostBench
