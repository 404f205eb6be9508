/-
  The search for the longest offset, turn by turn. One turn (`Bounds.turn`) takes the difference of the
  bounds, half of it, and the sum of that and the lower bound, where every sum and every difference is
  checked (`Duration.plus?`, `Duration.minus?`).

  `turn_cases` says all that a turn can do: between an accepted and a refused offset nothing overflows,
  and the bounds either are neighbours or come closer by half. So the bounds are always like that
  (`Leads.bracket`), and the search ends after as many turns as it takes to halve the distance down to
  one nanosecond (`exists_ended`). What it comes to is what `bisect` does, which does not check its
  arithmetic.
-/
import HostBench.Proofs.Clock.Reach
import Mathlib.Data.Nat.Log

namespace HostBench

/-! ## Checked arithmetic -/

namespace Duration

variable {a b : Duration}

/-- The sum; nothing where the seconds overflow, with those that the nanoseconds carry. -/
def plus? (a b : Duration) : Option Duration :=
  if a.seconds + b.seconds + (a.nanos + b.nanos) / nanosPerSecond < secondsBound then some (a + b)
  else none

/-- The difference; nothing where the seconds underflow, with the one that is borrowed where the
nanoseconds do not suffice. -/
def minus? (a b : Duration) : Option Duration :=
  if b.nanos ≤ a.nanos then
    if b.seconds ≤ a.seconds then some (a - b) else none
  else if b.seconds < a.seconds then some (a - b)
  else none

/-- A sum overflows just if it passes the longest duration. -/
theorem plus?_eq_none_iff : a.plus? b = none ↔ max.toNanos < a.toNanos + b.toNanos := by
  have ha := a.nanos_lt
  have hb := b.nanos_lt
  unfold plus?
  rw [toNanos_max]
  split
  · rename_i fits
    have bound : a.seconds + b.seconds + (a.nanos + b.nanos) / 1000000000 < 18446744073709551616 :=
      fits
    simp only [toNanos, nanosPerSecond, reduceCtorEq, false_iff]
    omega
  · rename_i past
    simp only [toNanos, nanosPerSecond, secondsBound, true_iff] at *
    omega

/-- A difference underflows just if the second duration is the longer one. -/
theorem minus?_eq_none_iff : a.minus? b = none ↔ a < b := by
  have ha := a.nanos_lt
  have hb := b.nanos_lt
  unfold minus?
  rw [lt_def]
  split <;> split <;> simp only [toNanos, nanosPerSecond, reduceCtorEq, false_iff, true_iff] at * <;>
    omega

/-- A sum that does not overflow is the sum. -/
theorem plus?_eq (fits : a.toNanos + b.toNanos ≤ max.toNanos) : a.plus? b = some (a + b) := by
  have there : a.plus? b ≠ none := fun overflows =>
    Nat.not_lt.mpr fits (plus?_eq_none_iff.mp overflows)
  unfold plus? at there ⊢
  split
  · rfl
  · rename_i past
    exact absurd (if_neg past) there

/-- A difference that does not underflow is the difference. -/
theorem minus?_eq (ordered : b ≤ a) : a.minus? b = some (a - b) := by
  have there : a.minus? b ≠ none := fun underflows =>
    Nat.not_lt.mpr ordered (minus?_eq_none_iff.mp underflows)
  unfold minus? at there ⊢
  split
  · rename_i enough
    rw [if_pos enough] at there
    split
    · rfl
    · rename_i past
      exact absurd (if_neg past) there
  · rename_i short
    rw [if_neg short] at there
    split
    · rfl
    · rename_i past
      exact absurd (if_neg past) there

end Duration

namespace Instant

/-! ## One turn -/

/-- Between these two offsets the search looks. -/
structure Bounds where
  low : Duration
  high : Duration

/-- What a turn of the search comes to. -/
inductive Turn where
  /-- There is nothing between the bounds. -/
  | ended
  | next (b : Bounds)
  /-- A sum or a difference is no duration. -/
  | overflow

/-- The distance of the bounds in nanoseconds. -/
def Bounds.gap (b : Bounds) : Nat := b.high.toNanos - b.low.toNanos

/-- One turn: the offset in the middle becomes the lower bound if it is accepted, and the upper bound
if it is refused. -/
def Bounds.turn (accepts : Duration → Bool) (b : Bounds) : Turn :=
  match b.high.minus? b.low with
  | none => .overflow
  | some apart =>
    if tick < apart then
      match b.low.plus? apart.half with
      | none => .overflow
      | some mid => .next (if accepts mid then ⟨mid, b.high⟩ else ⟨b.low, mid⟩)
    else .ended

/-- The bounds are durations up to `wanted` on both sides of what is looked for. -/
structure Bounds.Bracket (accepts : Duration → Bool) (wanted : Duration) (b : Bounds) : Prop where
  accepted : accepts b.low = true
  refused : accepts b.high = false
  high_le : b.high ≤ wanted

/-- A turn from some bounds halves their distance, up to a nanosecond, and the search comes to the same
from there. -/
structure Bounds.Halves (accepts : Duration → Bool) (b b' : Bounds) : Prop where
  apart : 1 < b.gap
  gap_eq : b'.gap = b.gap / 2 ∨ b'.gap = b.gap - b.gap / 2
  bisect_eq : bisect accepts b'.low b'.high = bisect accepts b.low b.high

variable {accepts : Duration → Bool} {wanted : Duration} {b b' c : Bounds} {n : Nat}

/-- Each turn brings the bounds closer. -/
theorem Bounds.Halves.lt (halves : b.Halves accepts b') : b'.gap < b.gap := by
  have apart := halves.apart
  have near := halves.gap_eq
  omega

section
variable (closed : ∀ x y : Duration, x ≤ y → accepts y = true → accepts x = true)
include closed

/-- What is accepted lies before what is refused. -/
theorem Bounds.Bracket.low_lt (bracket : b.Bracket accepts wanted) : b.low < b.high := by
  apply Nat.lt_of_not_le
  intro past
  have above := closed b.high b.low past bracket.accepted
  rw [bracket.refused] at above
  cases above

/-- The difference of the bounds, half of it and the offset in the middle, none of which leaves the
range of durations. -/
theorem Bounds.Bracket.middle (bracket : b.Bracket accepts wanted) :
    b.high.minus? b.low = some (b.high - b.low) ∧ (b.high - b.low).toNanos = b.gap ∧
      (b.high - b.low).half.toNanos = b.gap / 2 ∧
      b.low.plus? (b.high - b.low).half = some (b.low + (b.high - b.low).half) ∧
      (b.low + (b.high - b.low).half).toNanos = b.low.toNanos + b.gap / 2 := by
  have before : b.low.toNanos < b.high.toNanos := bracket.low_lt closed
  have top := Duration.le_def.mp (Duration.le_max b.high)
  have gap_eq : (b.high - b.low).toNanos = b.gap := Duration.toNanos_sub _ _
  have half_eq : (b.high - b.low).half.toNanos = b.gap / 2 := by rw [Duration.toNanos_half, gap_eq]
  have fits : b.low.toNanos + (b.high - b.low).half.toNanos ≤ Duration.max.toNanos := by
    unfold Bounds.gap at half_eq
    omega
  refine ⟨Duration.minus?_eq (Nat.le_of_lt before), gap_eq, half_eq, Duration.plus?_eq fits, ?_⟩
  rw [Duration.toNanos_add, half_eq]
  omega

/-- All that a turn can do between an accepted and a refused offset. It does not overflow. -/
theorem turn_cases (bracket : b.Bracket accepts wanted) :
    (b.turn accepts = .ended ∧ b.gap = 1 ∧ bisect accepts b.low b.high = b.low) ∨
      ∃ b', b.turn accepts = .next b' ∧ b'.Bracket accepts wanted ∧ b.Halves accepts b' := by
  have before : b.low.toNanos < b.high.toNanos := bracket.low_lt closed
  obtain ⟨difference, gap_eq, -, sum, mid_eq⟩ := bracket.middle closed
  have found : bisect accepts b.low b.high =
      if tick < b.high - b.low then
        if accepts (b.low + (b.high - b.low).half) then
          bisect accepts (b.low + (b.high - b.low).half) b.high
        else bisect accepts b.low (b.low + (b.high - b.low).half)
      else b.low := (bisect.eq_def accepts b.low b.high).trans dite_eq_ite
  unfold Bounds.turn
  rw [difference]
  dsimp only
  by_cases wide : tick < b.high - b.low
  · right
    have apart : 1 < b.gap := by
      rw [← gap_eq]
      exact wide
    rw [if_pos wide] at found
    rw [if_pos wide, sum]
    dsimp only
    by_cases accepted : accepts (b.low + (b.high - b.low).half) = true
    · rw [if_pos accepted] at found
      rw [if_pos accepted]
      refine ⟨_, rfl, ⟨accepted, bracket.refused, bracket.high_le⟩, apart, .inr ?_, found.symm⟩
      unfold Bounds.gap at mid_eq ⊢
      dsimp only
      omega
    · rw [if_neg accepted] at found
      rw [if_neg accepted]
      refine ⟨_, rfl, ⟨bracket.accepted, Bool.eq_false_iff.mpr accepted, ?_⟩, apart, .inl ?_,
        found.symm⟩
      · have upper := Duration.le_def.mp bracket.high_le
        rw [Duration.le_def, mid_eq]
        unfold Bounds.gap at apart ⊢
        omega
      · unfold Bounds.gap at mid_eq ⊢
        dsimp only
        omega
  · left
    rw [if_neg wide] at found
    rw [if_neg wide]
    have narrow : ¬ 1 < b.gap := by
      rw [← gap_eq]
      exact wide
    refine ⟨rfl, ?_, found⟩
    unfold Bounds.gap at narrow ⊢
    omega

end

/-! ## All turns -/

/-- That many turns lead from some bounds to others. -/
inductive Leads (accepts : Duration → Bool) : Nat → Bounds → Bounds → Prop
  | here (b : Bounds) : Leads accepts 0 b b
  | on {n : Nat} {b b' c : Bounds} (turned : b.turn accepts = .next b')
      (later : Leads accepts n b' c) : Leads accepts (n + 1) b c

section
variable (closed : ∀ x y : Duration, x ≤ y → accepts y = true → accepts x = true)
include closed

/-- The lower bound is always accepted, and the upper bound refused. -/
theorem Leads.bracket (leads : Leads accepts n b c) (bracket : b.Bracket accepts wanted) :
    c.Bracket accepts wanted := by
  induction leads with
  | here b => exact bracket
  | @on n b b' c turned _ ih =>
    rcases turn_cases closed bracket with ⟨ended, -, -⟩ | ⟨x, next, kept, -⟩
    · rw [ended] at turned
      cases turned
    · rw [next] at turned
      cases turned
      exact ih kept

/-- The search ends, after no more turns than it takes to halve the distance of the bounds down to one
nanosecond. -/
theorem exists_ended (bracket : b.Bracket accepts wanted) :
    ∃ n c, n ≤ Nat.clog 2 b.gap ∧ Leads accepts n b c ∧ c.turn accepts = .ended ∧
      c.gap = 1 ∧ c.low = bisect accepts b.low b.high := by
  -- the distance becomes smaller with each turn
  induction size : b.gap using Nat.strong_induction_on generalizing b with
  | _ size_ ih =>
    subst size
    rcases turn_cases closed bracket with ⟨ended, neighbours, found⟩ | ⟨b', next, kept, halves⟩
    · exact ⟨0, b, Nat.zero_le _, .here b, ended, neighbours, found.symm⟩
    · obtain ⟨n, c, few, leads, ended, neighbours, found⟩ := ih b'.gap halves.lt kept rfl
      have apart := halves.apart
      have fewer : Nat.clog 2 b'.gap ≤ Nat.clog 2 ((b.gap + 2 - 1) / 2) := by
        apply Nat.clog_mono_right
        have near := halves.gap_eq
        omega
      have one_more : Nat.clog 2 b.gap = Nat.clog 2 ((b.gap + 2 - 1) / 2) + 1 :=
        Nat.clog_of_two_le (Nat.le_refl 2) apart
      refine ⟨n + 1, c, ?_, .on next leads, ended, neighbours, found.trans halves.bisect_eq⟩
      omega

end

/-! ## The whole search -/

/-- The longest duration up to `wanted` that is accepted: `wanted` itself, or what bisection between no
time at all and `wanted` comes to. -/
def longest (accepts : Duration → Bool) (wanted : Duration) : Duration :=
  if accepts wanted then wanted else bisect accepts .zero wanted

/-- The search for the longest accepted duration up to `wanted`, and its answer. -/
structure Searches (accepts : Duration → Bool) (wanted answer : Duration) : Prop where
  /-- Whenever a turn begins, the lower bound is accepted and the upper bound is not. -/
  bracket : accepts wanted = false → ∀ n b, Leads accepts n ⟨.zero, wanted⟩ b →
    b.Bracket accepts wanted ∧ b.low < b.high
  /-- The difference of the bounds is exact, and so are half of it and the middle: no sum and no
  difference leaves the range of durations. -/
  exact_arithmetic : accepts wanted = false → ∀ n b, Leads accepts n ⟨.zero, wanted⟩ b →
    ∃ apart mid, b.high.minus? b.low = some apart ∧ apart.toNanos = b.gap ∧
      apart.half.toNanos = b.gap / 2 ∧ b.low.plus? apart.half = some mid ∧
      mid.toNanos = b.low.toNanos + b.gap / 2 ∧ b.turn accepts ≠ .overflow
  /-- Every turn after which there is another one brings the bounds closer by half. -/
  halves : accepts wanted = false → ∀ n b b', Leads accepts n ⟨.zero, wanted⟩ b →
    b.turn accepts = .next b' →
      b'.gap < b.gap ∧ (b'.gap = b.gap / 2 ∨ b'.gap = b.gap - b.gap / 2)
  /-- After few turns the bounds are neighbours, and the lower one is the answer. -/
  ends : accepts wanted = false → ∃ n b, n ≤ Nat.clog 2 wanted.toNanos ∧ n ≤ 94 ∧
    Leads accepts n ⟨.zero, wanted⟩ b ∧ b.turn accepts = .ended ∧ b.gap = 1 ∧ b.low = answer
  greatest : IsGreatest {d | d ≤ wanted ∧ accepts d = true} answer
  eq_wanted_iff : answer = wanted ↔ accepts wanted = true

/-- A duration has as many nanoseconds as 94 bits hold. -/
theorem clog_toNanos_le (d : Duration) : Nat.clog 2 d.toNanos ≤ 94 := by
  have top := Duration.le_def.mp (Duration.le_max d)
  rw [Duration.toNanos_max] at top
  apply Nat.clog_le_of_le_pow
  exact Nat.le_trans top (by decide)

theorem isGreatest_longest (start : accepts .zero = true)
    (closed : ∀ x y : Duration, x ≤ y → accepts y = true → accepts x = true) (wanted : Duration) :
    IsGreatest {d | d ≤ wanted ∧ accepts d = true} (longest accepts wanted) := by
  unfold longest
  by_cases fits : accepts wanted = true
  · rw [if_pos fits]
    exact ⟨⟨Nat.le_refl _, fits⟩, fun d hd => hd.1⟩
  · rw [if_neg fits]
    obtain ⟨accepted, upper⟩ := bisect_isGreatest closed start (Bool.eq_false_iff.mpr fits)
    refine ⟨⟨?_, accepted⟩, fun d hd => upper hd.2⟩
    -- what is accepted lies before `wanted`, which is not
    apply Nat.le_of_not_le
    intro past
    exact fits (closed _ _ past accepted)

/-- **The search for the longest accepted duration.** If no time at all is accepted, and all that is
shorter than something accepted, then the search for the longest accepted duration up to `wanted` ends,
never leaves the range of durations on the way, and finds it. If the durations that lead from an origin
to an instant are accepted, it is what the origin reaches. -/
theorem searches_longest (start : accepts .zero = true)
    (closed : ∀ x y : Duration, x ≤ y → accepts y = true → accepts x = true) (wanted : Duration) :
    Searches accepts wanted (longest accepts wanted) ∧
      ∀ origin : Instant, (∀ d, accepts d = (origin.add? d).isSome) →
        origin.reach wanted = longest accepts wanted := by
  have opens : accepts wanted = false → Bounds.Bracket accepts wanted ⟨.zero, wanted⟩ :=
    fun refused => ⟨start, refused, Nat.le_refl _⟩
  have greatest := isGreatest_longest start closed wanted
  refine ⟨?_, ?_⟩
  · constructor
    case bracket =>
      intro refused n b leads
      have bracket := leads.bracket closed (opens refused)
      exact ⟨bracket, bracket.low_lt closed⟩
    case exact_arithmetic =>
      intro refused n b leads
      have bracket := leads.bracket closed (opens refused)
      obtain ⟨difference, gap_eq, half_eq, sum, mid_eq⟩ := bracket.middle closed
      refine ⟨_, _, difference, gap_eq, half_eq, sum, mid_eq, ?_⟩
      intro overflows
      rcases turn_cases closed bracket with ⟨ended, -, -⟩ | ⟨b', next, -, -⟩
      · rw [ended] at overflows
        cases overflows
      · rw [next] at overflows
        cases overflows
    case halves =>
      intro refused n b b' leads turned
      rcases turn_cases closed (leads.bracket closed (opens refused)) with
        ⟨ended, -, -⟩ | ⟨x, next, -, halves⟩
      · rw [ended] at turned
        cases turned
      · rw [next] at turned
        cases turned
        exact ⟨halves.lt, halves.gap_eq⟩
    case ends =>
      intro refused
      obtain ⟨n, b, few, leads, ended, neighbours, found⟩ := exists_ended closed (opens refused)
      have answer : longest accepts wanted = bisect accepts .zero wanted :=
        if_neg (Bool.eq_false_iff.mp refused)
      have whole : Bounds.gap ⟨.zero, wanted⟩ = wanted.toNanos := by
        unfold Bounds.gap
        rw [Duration.toNanos_zero, Nat.sub_zero]
      rw [whole] at few
      exact ⟨n, b, few, Nat.le_trans few (clog_toNanos_le wanted), leads, ended, neighbours,
        found.trans answer.symm⟩
    case greatest => exact greatest
    case eq_wanted_iff =>
      constructor
      · intro same
        have accepted := greatest.1.2
        rwa [same] at accepted
      · intro accepted
        exact if_pos accepted
  · intro origin same
    have accepts_eq : accepts = fun d => (origin.add? d).isSome := funext same
    rw [accepts_eq]
    rfl

/-- An origin two and a half seconds before the latest instant, from which more is wanted. -/
theorem searches_near_the_end :
    Searches (fun d => ((withHeadroom (.ofMillis 2500)).add? d).isSome) (.ofSeconds 4)
      ((withHeadroom (.ofMillis 2500)).reach (.ofSeconds 4)) := by
  have start : ((withHeadroom (.ofMillis 2500)).add? .zero).isSome = true := by decide +kernel
  have closed : ∀ x y : Duration, x ≤ y → ((withHeadroom (.ofMillis 2500)).add? y).isSome = true →
      ((withHeadroom (.ofMillis 2500)).add? x).isSome = true := by
    intro x y shorter accepted
    rw [isSome_add?_iff] at accepted ⊢
    exact Nat.le_trans shorter accepted
  obtain ⟨searches, reached⟩ := searches_longest start closed (.ofSeconds 4)
  rw [reached _ fun d => rfl]
  exact searches

end Instant

end HostBench
