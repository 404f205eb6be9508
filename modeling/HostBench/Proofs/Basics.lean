/-
  Facts about lists and about programs with a state that say nothing of hosts. They stand here since the
  modules that use them are about different things.
-/
import Mathlib.Data.List.Induction
import Mathlib.Data.List.Sort

namespace HostBench

variable {α β : Type}

/-! ## Lists -/

theorem getLast?_toList (o : Option α) : o.toList.getLast? = o := by
  cases o <;> rfl

/-- What is found in a list is found by going through its places. -/
theorem filterMap_eq_range (f : α → Option β) (l : List α) :
    l.filterMap f = (List.range l.length).filterMap fun i => l[i]?.bind f := by
  induction l using List.reverseRecOn with
  | nil => rfl
  | append_singleton l a ih =>
    have same : ∀ i ∈ List.range l.length, (l ++ [a])[i]?.bind f = l[i]?.bind f := by
      intro i hi
      rw [List.getElem?_append_left (List.mem_range.mp hi)]
    rw [List.filterMap_append, List.length_append, List.length_singleton, List.range_succ,
      List.filterMap_append, List.filterMap_congr same, ih]
    congr 1
    unfold List.filterMap
    rw [List.getElem?_concat_length]
    rfl

/-- A list with one more at its end, split somewhere. -/
theorem concat_eq_append_cons {l before after : List α} {a x : α}
    (split : l ++ [a] = before ++ x :: after) :
    (before = l ∧ x = a ∧ after = []) ∨ ∃ rest, after = rest ++ [a] ∧ l = before ++ x :: rest := by
  rcases List.eq_nil_or_concat after with rfl | ⟨rest, b, rfl⟩
  · obtain ⟨same, last⟩ := List.append_inj' split rfl
    cases last
    exact .inl ⟨same.symm, rfl, rfl⟩
  · have longer : l ++ [a] = (before ++ x :: rest) ++ [b] := by simpa using split
    obtain ⟨same, last⟩ := List.append_inj' longer rfl
    cases last
    exact .inr ⟨rest, by simp, same⟩

/-- What is listed in order of its names, each of them once, is settled by what it is. -/
theorem eq_of_sorted {name : α → String} {l m : List α}
    (first : l.Pairwise fun a b => name a < name b)
    (second : m.Pairwise fun a b => name a < name b) (same : ∀ a, a ∈ l ↔ a ∈ m) : l = m := by
  have irrefl : Std.Irrefl fun a b : α => name a < name b := ⟨fun a => String.lt_irrefl (name a)⟩
  have antisymm : Std.Antisymm fun a b : α => name a < name b :=
    ⟨fun a b before after => absurd before (String.lt_asymm after)⟩
  exact first.eq_of_mem_iff second same

/-! ## Programs with a state -/

/-- What does nothing leaves the state as it is. -/
theorem pure_apply {σ : Type} (a : α) (s : σ) : (pure a : StateM σ α) s = (a, s) := rfl

/-- What comes of something that may fail, with reports before and after it. -/
theorem run_reporting {ε ε' τ : Type} (f : ε → ε') (install : ExceptT ε (StateM (List τ)) α)
    (before : List τ) (after : α → List τ) (finish : α → β) (trace : List τ) :
    ((do
      modify (· ++ before)
      let a ← ExceptT.adapt f install
      modify (· ++ after a)
      return finish a : ExceptT ε' (StateM (List τ)) β).run.run trace).1 =
      ((install.run.run (trace ++ before)).1.mapError f).map finish := by
  have first : (ExceptT.adapt f install).run (trace ++ before) =
      ((install.run.run (trace ++ before)).1.mapError f,
        (install.run.run (trace ++ before)).2) := rfl
  show ((ExceptT.bindCont _ : _ → StateM (List τ) _)
    ((ExceptT.adapt f install).run (trace ++ before)).1
    ((ExceptT.adapt f install).run (trace ++ before)).2).1 = _
  rw [first]
  cases (install.run.run (trace ++ before)).1 <;> rfl

end HostBench
