/-
  Limits of time on a timer that others use too. A limit is a pause with an alarm of its own. To ask
  about a pause sets its alarm at most (`Looked`). Whoever asks learns whether the point at which the
  pause ends is reached, unless an alarm that is due has not gone off yet, or the budget of the turn
  was used up before (`due_le_of_look`, `lt_due_of_look`, `pollLimit_asked`).
-/
import HostBench.Proofs.Disposal.Others

namespace HostBench

variable {W : Type}

namespace Timer

/-- What becomes of a timer and a pause when someone asks whether the pause is over: its alarm is set,
or nothing changes but who is woken. -/
inductive Looked (t : Timer W) (p : Pause) : Timer W → Pause → Prop
  | same {t' : Timer W} (now_eq : t'.now = t.now) (next_eq : t'.next = t.next)
      (dues_eq : t'.dues = t.dues) : Looked t p t' p
  | set {t' : Timer W} (unset : p.alarm = none) (now_eq : t'.now = t.now)
      (next_eq : t'.next = t.next + 1) (dues_eq : t'.dues = t.dues ++ [(t.next, p.due)]) :
      Looked t p t' { p with alarm := some t.next }

variable {theirs : Nat → Prop} {t t' : Timer W} {p p' : Pause} {w : W}

theorem looked_look (t : Timer W) (p : Pause) (w : W) :
    Looked t p (t.look p w).1 (t.look p w).2.1 := by
  unfold look
  split
  · split
    · refine .same rfl rfl ?_
      simp only [dues, List.map_map]
      refine List.map_congr_left fun a _ => ?_
      simp only [Function.comp]
      split <;> rfl
    · exact .same rfl rfl rfl
  · rename_i unset
    split
    · exact .same rfl rfl rfl
    · exact .set unset rfl rfl (by simp [dues])

theorem looked_defer [BEq W] (t : Timer W) (p : Pause) (w : W) : Looked t p (t.defer w) p := by
  unfold defer
  split <;> exact .same rfl rfl rfl

theorem Looked.spend (looked : Looked t p t' p') : Looked t p t'.spend p' := by
  cases looked with
  | same now_eq next_eq dues_eq => exact .same now_eq next_eq dues_eq
  | set unset now_eq next_eq dues_eq => exact .set unset now_eq next_eq dues_eq

theorem looked_poll [BEq W] (t : Timer W) (p : Pause) (w : W) :
    Looked t p (t.poll p w).1 (t.poll p w).2.1 := by
  have looked := looked_look t p w
  unfold poll
  split
  · exact looked_defer t p w
  · split <;> rename_i same <;> rw [same] at looked
    · exact looked.spend
    · exact looked

/-- To ask about a pause of one's own is to use the timer. -/
theorem Looked.use (looked : Looked t p t' p') :
    Use theirs (fun id => theirs id ∨ p.alarm = none ∧ p'.alarm = some id) t t' := by
  cases looked with
  | same now_eq next_eq dues_eq =>
    refine ⟨Nat.le_of_eq next_eq.symm, ?_, ?_, ?_⟩
    · intro x hx _
      exact .inr (by rw [dues_eq]; exact hx)
    · intro x hx
      exact .inl (by rw [dues_eq] at hx; exact hx)
    · rintro id (old | ⟨unset, set⟩)
      · exact .inl old
      · rw [unset] at set
        cases set
  | set unset now_eq next_eq dues_eq =>
    refine ⟨Nat.le_of_lt (by rw [next_eq]; exact Nat.lt_succ_self _), ?_, ?_, ?_⟩
    · intro x hx _
      exact .inr (by rw [dues_eq]; exact List.mem_append_left _ hx)
    · intro x hx
      rw [dues_eq, List.mem_append] at hx
      rcases hx with old | new
      · exact .inl old
      · rw [List.mem_singleton.mp new, next_eq]
        exact .inr ⟨Nat.le_refl _, Nat.lt_succ_self _⟩
    · rintro id (old | ⟨-, set⟩)
      · exact .inl old
      · cases set
        rw [next_eq]
        exact .inr ⟨Nat.le_refl _, Nat.lt_succ_self _⟩

/-- An alarm that is set belongs to whoever asked. -/
theorem Looked.armed (looked : Looked t p t' p') (tidy : t.Tidy)
    (theirs_lt : ∀ id, theirs id → id < t.next) (armed : Armed theirs t p) : Armed theirs t' p' := by
  cases looked with
  | same now_eq next_eq dues_eq =>
    exact ⟨by rw [next_eq]; exact armed.lt_next, armed.own, by rw [dues_eq]; exact armed.due_eq,
      by rw [now_eq, dues_eq]; exact armed.pending⟩
  | set unset now_eq next_eq dues_eq =>
    refine ⟨?_, ?_, ?_, ?_⟩
    · intro id set
      cases set
      rw [next_eq]
      exact Nat.lt_succ_self _
    · intro id set owned
      cases set
      exact Nat.lt_irrefl _ (theirs_lt _ owned)
    · intro id set due listed
      cases set
      rw [dues_eq, List.mem_append] at listed
      rcases listed with old | new
      · exact absurd (tidy _ old) (Nat.lt_irrefl _)
      · rw [List.mem_singleton, Prod.mk.injEq] at new
        exact new.2
    · intro id set
      cases set
      rw [dues_eq]
      exact .inr (List.mem_append_right _ List.mem_cons_self)

theorem Looked.now_eq (looked : Looked t p t' p') : t'.now = t.now := by
  cases looked <;> assumption

theorem Looked.due_eq (looked : Looked t p t' p') : p'.due = p.due := by
  cases looked <;> rfl

/-! ## Being over -/

theorem any_id_iff {id : Nat} : t.alarms.any (·.id == id) = true ↔ ∃ due, (id, due) ∈ t.dues := by
  rw [List.any_eq_true]
  constructor
  · rintro ⟨a, ha, same⟩
    exact ⟨a.due, List.mem_map.mpr ⟨a, ha, by rw [eq_of_beq same]⟩⟩
  · rintro ⟨due, listed⟩
    obtain ⟨a, ha, same⟩ := List.mem_map.mp listed
    exact ⟨a, ha, beq_iff_eq.mpr (congrArg Prod.fst same)⟩

/-- A pause that is over has reached its end. -/
theorem due_le_of_look (armed : Armed theirs t p) (up : (t.look p w).2.2 = true) :
    p.due ≤ t.now := by
  unfold look at up
  split at up
  · rename_i id set
    split at up
    · cases up
    · rename_i gone
      rcases armed.pending id set with due | listed
      · exact due
      · exact absurd (any_id_iff.mpr ⟨_, listed⟩) gone
  · split at up
    · rename_i reached
      exact reached
    · cases up

/-- A pause that is not up has not reached its end, if its alarm has not been overlooked. -/
theorem lt_due_of_look (armed : Armed theirs t p)
    (rung : ∀ id, p.alarm = some id → ∀ due, (id, due) ∈ t.dues → t.now < due)
    (on : (t.look p w).2.2 = false) : t.now < p.due := by
  unfold look at on
  split at on
  · rename_i id set
    split at on
    · rename_i listed
      obtain ⟨due, listed⟩ := any_id_iff.mp listed
      rw [← armed.due_eq id set due listed]
      exact rung id set due listed
    · cases on
  · split at on
    · cases on
    · rename_i early
      exact Nat.lt_of_not_le early

/-! ## Limits -/

theorem pollLimit_some [BEq W] (fresh : Bool) :
    t.pollLimit fresh (some p) w =
      (let x := if fresh && t.exhausted then t.look p w else t.poll p w
      (x.1, some x.2.1, x.2.2)) := rfl

/-- A limit is asked about like a pause. A turn whose budget is used up does not tell that it is up,
unless what was measured against it has used up the budget itself. -/
theorem pollLimit_asked [BEq W] (t : Timer W) (fresh : Bool) (p : Pause) (w : W) :
    ∃ t' p' up, t.pollLimit fresh (some p) w = (t', some p', up) ∧ Looked t p t' p' ∧
      (up = true → (t.look p w).2.2 = true) ∧ (fresh = true → (t.look p w).2.2 = up) := by
  rw [pollLimit_some]
  by_cases hurried : (fresh && t.exhausted) = true
  · rw [if_pos hurried]
    exact ⟨_, _, _, rfl, looked_look t p w, id, fun _ => rfl⟩
  · rw [if_neg hurried]
    refine ⟨_, _, _, rfl, looked_poll t p w, ?_, ?_⟩
    · unfold poll
      split
      · intro up
        cases up
      · split <;> rename_i same <;> rw [same] <;> exact id
    · intro isFresh
      have left : ¬ t.exhausted = true := fun used => hurried (by rw [isFresh, used]; rfl)
      unfold poll
      rw [if_neg left]
      split <;> rename_i same <;> rw [same]

theorem dues_cancel (t : Timer W) (p : Pause) :
    (t.cancel p).now = t.now ∧ (t.cancel p).next = t.next ∧ (t.cancel p).dues ⊆ t.dues := by
  unfold cancel
  split
  · exact ⟨rfl, rfl, List.map_subset _ (List.filter_sublist.subset)⟩
  · exact ⟨rfl, rfl, List.Subset.refl _⟩

/-- To give up a pause of one's own is to use the timer. -/
theorem use_cancel (t : Timer W) (own : ∀ id, p.alarm = some id → theirs id) :
    Use theirs theirs t (t.cancel p) := by
  obtain ⟨now_eq, next_eq, fewer⟩ := dues_cancel t p
  refine ⟨Nat.le_of_eq next_eq.symm, ?_, fun x hx => .inl (fewer hx), fun id owned => .inl owned⟩
  intro x hx foreign
  refine .inr ?_
  unfold cancel
  split
  · rename_i id set
    obtain ⟨a, ha, rfl⟩ := List.mem_map.mp hx
    refine List.mem_map.mpr ⟨a, List.mem_filter.mpr ⟨ha, bne_iff_ne.mpr fun same => ?_⟩, rfl⟩
    exact foreign (same ▸ own id set)
  · exact hx

end Timer

end HostBench
