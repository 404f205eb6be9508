/-
  Recipes: what a factory does, or anyone else who resolves services, one step after the other. A
  recipe changes the state of whatever lies around the provider, looks at the provider, resolves
  capabilities, and may have the host release its services; what it does next depends on all that it
  has seen so far. Clones of a provider are one place, so a recipe does not say through which of them
  it acts.

  A resolution is one of `Provider.resolve`, and leaves its marks in a log
  (`Workshop.resolve_of_found`, `Workshop.resolve_of_refused`, `Workshop.resolve_of_toMake`). The
  factories of a cookbook are acyclic: the recipe of a factory resolves only capabilities of a lower
  rank than the one that it serves, and `Cookbook.get` is defined by recursion on the rank.
-/
import HostBench.Service.Provider

namespace HostBench

/-! ## What resolving comes to -/

namespace Provider
variable {σ V F : Type} {place : Place σ (Provider V F)}
  {make : F → StateM σ (Except ResolveError V)}
  {created : Capability → ServiceLifetime → StateM σ Unit} {key : Capability} {s : σ}

theorem resolve_of_found {v : V} (found : (place.get s).lookup key = .found v) :
    resolve place make created key s = (.ok v, s) := by
  have looked : place.read s = (place.get s, s) := rfl
  simp only [resolve, bind, StateT.bind, looked, found]
  rfl

theorem resolve_of_refused {e : ResolveError} (refused : (place.get s).lookup key = .refused e) :
    resolve place make created key s = (.error e, s) := by
  have looked : place.read s = (place.get s, s) := rfl
  simp only [resolve, bind, StateT.bind, looked, refused]
  rfl

theorem resolve_of_failed {lifetime : ServiceLifetime} {f : F} {e : ResolveError} {s' : σ}
    (toMake : (place.get s).lookup key = .toMake lifetime f) (failed : make f s = (.error e, s')) :
    resolve place make created key s = (.error (e.through key), s') := by
  have looked : place.read s = (place.get s, s) := rfl
  simp only [resolve, bind, StateT.bind, looked, toMake, failed]
  rfl

theorem resolve_of_made {lifetime : ServiceLifetime} {f : F} {v : V} {s' : σ}
    (toMake : (place.get s).lookup key = .toMake lifetime f) (made : make f s = (.ok v, s')) :
    resolve place make created key s =
      (let s' := (created key lifetime s').2
      if lifetime = .transient then (.ok v, s')
      else
        match (place.get s').keep key v with
        | .error e => (.error e, s')
        | .ok (p, v) => (.ok v, place.set p s')) := by
  have looked : ∀ s, place.read s = (place.get s, s) := fun _ => rfl
  simp only [resolve, bind, StateT.bind, looked, toMake, made]
  obtain ⟨_, t⟩ := created key lifetime s'
  by_cases transient : lifetime = .transient
  · simp only [if_pos transient]
    rfl
  · simp only [if_neg transient]
    show ((match (place.get t).keep key v with
      | .error e => pure (.error e)
      | .ok (p, v) => do place.write p; return .ok v : StateM σ (Except ResolveError V)) t) = _
    cases (place.get t).keep key v <;> rfl
end Provider

/-! ## Recipes -/

/-- What someone does around a provider. It resolves only capabilities that are `within` bounds. -/
inductive Recipe (E V F : Type) (within : Capability → Prop) (α : Type) where
  | done (a : α)
  /-- Changes what lies around the provider, having seen it. -/
  | act (change : E → E) (next : E → Recipe E V F within α)
  /-- Looks at the provider without resolving anything. -/
  | look (next : Provider V F → Recipe E V F within α)
  | get (key : Capability) (allowed : within key)
      (next : Except ResolveError V → Recipe E V F within α)
  /-- The host releases its services; the recipe goes on with how many there were. -/
  | release (next : Nat → Recipe E V F within α)

/-- Resolves a capability and asks only whether there is a service. -/
def Recipe.tryGet {E V F α : Type} {within : Capability → Prop} (key : Capability)
    (allowed : within key) (next : Option V → Recipe E V F within α) : Recipe E V F within α :=
  .get key allowed fun answer => next answer.toOption

/-- What the factories of a registry do. No factory leads back to itself: its recipe resolves only
capabilities of a lower rank. -/
structure Cookbook (E V F : Type) where
  rank : Capability → Nat
  recipe : (key : Capability) → F → Recipe E V F (fun k => rank k < rank key) (Except ResolveError V)

/-! ## The log -/

/-- A mark in the log. The marks of one resolution carry its number. -/
inductive Mark (V F : Type) where
  /-- Someone asks for a capability, and finds a singleton kept for it or not. -/
  | asked (id : Nat) (key : Capability) (cached : Bool)
  /-- A factory is called. -/
  | called (id : Nat) (key : Capability)
  /-- A factory returns. -/
  | made (id : Nat) (key : Capability) (result : Except ResolveError V)
  /-- It is reported that a service was created. -/
  | created (id : Nat) (key : Capability) (lifetime : ServiceLifetime)
  | answered (id : Nat) (key : Capability) (answer : Except ResolveError V)
  /-- Someone looks at the provider. -/
  | looked (p : Provider V F)
  /-- The services were released, and so many were registered. -/
  | released (count : Nat)

namespace Mark

variable {V F : Type}

/-- The number of the resolution that a mark belongs to. -/
def id? : Mark V F → Option Nat
  | .asked id _ _ | .called id _ | .made id _ _ | .created id _ _ | .answered id _ _ => some id
  | .looked _ | .released _ => none

/-- The marks from the return of a factory to the answer. -/
def ending (id : Nat) (key : Capability) (lifetime : ServiceLifetime)
    (result answer : Except ResolveError V) : List (Mark V F) :=
  match result with
  | .ok _ => [.made id key result, .created id key lifetime, .answered id key answer]
  | .error _ => [.made id key result, .answered id key answer]

/-- The capability that a mark is about. -/
def key? : Mark V F → Option Capability
  | .asked _ key _ | .called _ key | .made _ key _ | .created _ key _ | .answered _ key _ => some key
  | .looked _ | .released _ => none

end Mark

/-- The marks of one resolution, in order. -/
def account {V F : Type} (id : Nat) (log : List (Mark V F)) : List (Mark V F) :=
  log.filter fun m => m.id? == some id

/-! ## Running a recipe -/

/-- A provider with what lies around it, and the log. -/
structure Workshop (E V F : Type) where
  provider : Provider V F
  around : E
  log : List (Mark V F)

/-- A singleton is kept for the capability. -/
def Provider.keeps {V F : Type} (p : Provider V F) (key : Capability) : Bool :=
  p.services.any fun s => (key.lookup s.singletons).isSome

/-- What becomes of what a factory has made: the answer, and the provider with the singleton that
it keeps from now on. -/
def Provider.accept {V F : Type} (p : Provider V F) (key : Capability) (lifetime : ServiceLifetime) :
    Except ResolveError V → Except ResolveError V × Provider V F
  | .error e => (.error (e.through key), p)
  | .ok v =>
    if lifetime = .transient then (.ok v, p)
    else
      match p.keep key v with
      | .error e => (.error e, p)
      | .ok (p, v) => (.ok v, p)

theorem Provider.isReleased_accept {V F : Type} (p : Provider V F) (key : Capability) (lifetime : ServiceLifetime)
    (result : Except ResolveError V) : (p.accept key lifetime result).2.isReleased = p.isReleased := by
  obtain ⟨services⟩ := p
  cases result with
  | error e => rfl
  | ok v =>
    by_cases transient : lifetime = .transient
    · simp [accept, transient]
    · cases services with
      | none => simp [accept, transient, keep]
      | some s =>
        simp only [accept, transient, keep, if_false]
        cases key.lookup s.singletons <;> rfl

namespace Workshop

variable {E V F : Type}

/-- The workshop of a registry before anyone has resolved anything. -/
def ofRegistry (r : Registry V F) (around : E) : Workshop E V F := ⟨.ofRegistry r, around, []⟩

/-- Where the provider is kept. -/
def place : Place (Workshop E V F) (Provider V F) := ⟨provider, fun p w => { w with provider := p }⟩

/-- With more marks. -/
def noting (w : Workshop E V F) (marks : List (Mark V F)) : Workshop E V F :=
  { w with log := w.log ++ marks }

/-- Leaves a mark. -/
def note (m : Mark V F) : StateM (Workshop E V F) Unit := fun w => ((), w.noting [m])

/-- Resolves a capability and leaves the marks of that; `make` is what a factory does. -/
def resolve (make : F → StateM (Workshop E V F) (Except ResolveError V)) (key : Capability) :
    StateM (Workshop E V F) (Except ResolveError V) := fun w =>
  let id := w.log.length
  let answered := Provider.resolve place
    (fun f => do
      note (.called id key)
      let result ← make f
      note (.made id key result)
      return result)
    (fun key lifetime => note (.created id key lifetime)) key
    (w.noting [.asked id key (w.provider.keeps key)])
  (answered.1, answered.2.noting [.answered id key answered.1])

/-! ## What a resolution comes to -/

variable {make : F → StateM (Workshop E V F) (Except ResolveError V)} {key : Capability}
  {w : Workshop E V F}

theorem resolve_of_found {v : V} (found : w.provider.lookup key = .found v) :
    resolve make key w = (.ok v, w.noting [.asked w.log.length key (w.provider.keeps key),
      .answered w.log.length key (.ok v)]) := by
  have looked : (place.get (w.noting [.asked w.log.length key (w.provider.keeps key)])).lookup key =
      .found v := found
  rw [resolve, Provider.resolve_of_found looked]
  simp [noting]

theorem resolve_of_refused {e : ResolveError} (refused : w.provider.lookup key = .refused e) :
    resolve make key w = (.error e, w.noting [.asked w.log.length key (w.provider.keeps key),
      .answered w.log.length key (.error e)]) := by
  have looked : (place.get (w.noting [.asked w.log.length key (w.provider.keeps key)])).lookup key =
      .refused e := refused
  rw [resolve, Provider.resolve_of_refused looked]
  simp [noting]

theorem resolve_of_toMake {lifetime : ServiceLifetime} {f : F} {result : Except ResolveError V}
    {w' : Workshop E V F} (toMake : w.provider.lookup key = .toMake lifetime f)
    (made : make f (w.noting [.asked w.log.length key (w.provider.keeps key),
      .called w.log.length key]) = (result, w')) :
    resolve make key w =
      ((w'.provider.accept key lifetime result).1,
        { w' with provider := (w'.provider.accept key lifetime result).2 }.noting
          (Mark.ending w.log.length key lifetime result
            (w'.provider.accept key lifetime result).1)) := by
  have joined : ∀ m m' : Mark V F, (w.noting [m]).noting [m'] = w.noting [m, m'] := fun m m' => by
    simp [noting]
  have looked : (place.get (w.noting [.asked w.log.length key (w.provider.keeps key)])).lookup key =
      .toMake lifetime f := toMake
  have marked : (do
      note (.called w.log.length key)
      let result ← make f
      note (.made w.log.length key result)
      return result : StateM (Workshop E V F) _)
        (w.noting [.asked w.log.length key (w.provider.keeps key)]) =
      (result, w'.noting [.made w.log.length key result]) := by
    show ((fun m : _ × Workshop E V F => (m.1, m.2.noting [.made w.log.length key m.1]))
      (make f ((w.noting [_]).noting [_]))) = _
    rw [joined, made]
  rw [resolve]
  cases result with
  | error e =>
    rw [Provider.resolve_of_failed looked marked]
    simp [noting, Provider.accept, Mark.ending]
  | ok v =>
    rw [Provider.resolve_of_made looked marked]
    by_cases transient : lifetime = .transient
    · simp [noting, note, Provider.accept, Mark.ending, transient]
    · simp only [noting, note, place, Provider.accept, Mark.ending, if_neg transient]
      cases w'.provider.keep key v <;> simp

end Workshop

namespace Recipe

variable {E V F α : Type} {within : Capability → Prop}

/-- Follows a recipe, with `resolve` for its resolutions. -/
def run (resolve : (key : Capability) → within key → StateM (Workshop E V F) (Except ResolveError V)) :
    Recipe E V F within α → StateM (Workshop E V F) α
  | .done a => fun w => (a, w)
  | .act change next => fun w => (next w.around).run resolve { w with around := change w.around }
  | .look next => fun w => (next w.provider).run resolve (w.noting [.looked w.provider])
  | .get key allowed next => fun w =>
    (next (resolve key allowed w).1).run resolve (resolve key allowed w).2
  | .release next => fun w =>
    (next w.provider.release.2).run resolve
      { w.noting [.released w.provider.release.2] with provider := w.provider.release.1 }

end Recipe

namespace Cookbook

variable {E V F α : Type}

/-- Resolves a capability. Whatever its factory resolves is resolved in the same way. -/
def get (c : Cookbook E V F) (key : Capability) :
    StateM (Workshop E V F) (Except ResolveError V) :=
  Workshop.resolve (fun f => (c.recipe key f).run fun k _ => c.get k) key
termination_by c.rank key

/-- Someone who may resolve whatever there is. -/
abbrev Client (E V F α : Type) := Recipe E V F (fun _ => True) α

/-- What a client does, to its end. -/
def serve (c : Cookbook E V F) (client : Client E V F α) : StateM (Workshop E V F) α :=
  client.run fun key _ => c.get key

end Cookbook

end HostBench
