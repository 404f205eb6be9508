/-
  Components inside a larger state. What a component does with callbacks is written once, for every
  state that has a place for the component: a callback may then change the whole state, the
  component included.
-/
namespace HostBench

/-- Where a state `σ` keeps a component `α`. -/
structure Place (σ α : Type) where
  get : σ → α
  set : α → σ → σ

namespace Place

variable {σ α : Type}

/-- What is put at the place is found there, it takes the place of what was there before, and
putting back what is there changes nothing. -/
structure Lawful (p : Place σ α) : Prop where
  get_set : ∀ a s, p.get (p.set a s) = a
  set_set : ∀ a b s, p.set a (p.set b s) = p.set a s
  set_get : ∀ s, p.set (p.get s) s = s

/-- The component, read in the course of an action. -/
def read (p : Place σ α) : StateM σ α := fun s => (p.get s, s)

/-- Puts a component in the course of an action. -/
def write (p : Place σ α) (a : α) : StateM σ Unit := fun s => ((), p.set a s)

/-- The state that is the component alone. -/
def whole : Place α α := ⟨id, fun a _ => a⟩

theorem whole_lawful : (whole : Place α α).Lawful := ⟨fun _ _ => rfl, fun _ _ _ => rfl, fun _ => rfl⟩

end Place

end HostBench
