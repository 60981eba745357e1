import Acceptance.Pattern.Track
import Acceptance.Proofs.Pattern.Steps

/-!
# Bounds on counts

* `Expr.matches_bounded`: a bound on the counts of repetitions makes no difference for matches that
  are shorter than the bound.
-/

namespace Acceptance.Pattern.Expr

variable {κ μ : Type}

/-- The number of rounds may be cut off at a bound above the distance of the ends. -/
theorem rounds_bounded {R : Nat → Nat → Prop} (mono : ∀ i j, R i j → i ≤ j) {n i j least : Nat}
    {most : Option Nat} (near : j < i + n) (le : ∀ x ∈ most, least ≤ x) :
    (∃ k, min least n ≤ k ∧ (∀ x ∈ most.map (min · n), k ≤ x) ∧ Steps R k i j) ↔
      ∃ k, least ≤ k ∧ (∀ x ∈ most, k ≤ x) ∧ Steps R k i j := by
  constructor
  · rintro ⟨k, enough, few, h⟩
    rcases Nat.lt_or_ge k n with low | high
    · refine ⟨k, by omega, fun x hx => ?_, h⟩
      have := few (min x n) (Option.mem_map_of_mem (min · n) hx)
      omega
    · have at_n := (steps_iff_of_le mono near high).1 h
      refine ⟨max least n, by omega, fun x hx => ?_, (steps_iff_of_le mono near (by omega)).2 at_n⟩
      have := few (min x n) (Option.mem_map_of_mem (min · n) hx)
      have := le x hx
      omega
  · rintro ⟨k, enough, few, h⟩
    have fewer : ∀ x ∈ most.map (min · n), min k n ≤ x := by
      intro x hx
      cases most with
      | none => cases hx
      | some y =>
        obtain rfl : min y n = x := Option.some.inj hx
        have := few y rfl
        omega
    refine ⟨min k n, by omega, fewer, ?_⟩
    rcases Nat.lt_or_ge k n with low | high
    · rwa [Nat.min_eq_left (Nat.le_of_lt low)]
    · rw [Nat.min_eq_right high]
      exact (steps_iff_of_le mono near high).1 h

theorem eq_of_isZeroWidth {char : κ → Nat → Prop} {pos : μ → Nat → Prop} {e : Expr κ μ}
    (zero : e.isZeroWidth = true) {i j : Nat} (h : e.Matches char pos i j) : i = j := by
  induction e generalizing i j with
  | empty => exact h
  | one k => exact Bool.noConfusion zero
  | look l => exact h.2.symm
  | seq a b iha ihb =>
    simp only [isZeroWidth, Bool.and_eq_true] at zero
    obtain ⟨m, first, second⟩ := h
    exact (iha zero.1 first).trans (ihb zero.2 second)
  | alt a b iha ihb =>
    simp only [isZeroWidth, Bool.and_eq_true] at zero
    exact h.elim (iha zero.1) (ihb zero.2)
  | times least most isLazy a ih =>
    obtain ⟨n, enough, few, rounds⟩ := h
    simp only [isZeroWidth, Bool.or_eq_true, beq_iff_eq] at zero
    rcases zero with rfl | zero
    · obtain rfl : n = 0 := Nat.le_zero.1 (few 0 rfl)
      exact rounds
    · clear enough few
      induction n generalizing i with
      | zero => exact rounds
      | succ n ihn =>
        obtain ⟨m, first, rest⟩ := rounds
        exact (ih zero first).trans (ihn rest)
  | group capturing a ih => exact ih zero h

/-- Between positions less than `n` apart the bound `n` on counts makes no difference. -/
theorem matches_bounded {char : κ → Nat → Prop} {pos : μ → Nat → Prop} {n : Nat} (e : Expr κ μ)
    {i j : Nat} (near : j < i + n) :
    (e.bounded n).Matches char pos i j ↔ e.Matches char pos i j := by
  induction e generalizing i j with
  | empty => rfl
  | one k => rfl
  | look l => rfl
  | seq a b iha ihb =>
    constructor
    · rintro ⟨m, first, second⟩
      have := first.le
      have := second.le
      exact ⟨m, (iha (by omega)).1 first, (ihb (by omega)).1 second⟩
    · rintro ⟨m, first, second⟩
      have := first.le
      have := second.le
      exact ⟨m, (iha (by omega)).2 first, (ihb (by omega)).2 second⟩
  | alt a b iha ihb => exact or_congr (iha near) (ihb near)
  | times least most isLazy a ih =>
    have body : ∀ k, Steps ((a.bounded n).Matches char pos) k i j ↔
        Steps (a.Matches char pos) k i j := fun k =>
      steps_congr (fun _ _ => Matches.le) (fun _ _ => Matches.le)
        fun i' j' hi hj => ih (by omega)
    simp only [bounded]
    split
    · next h =>
      refine iff_of_false ?_ ?_
      · rintro ⟨k, enough, few, _⟩
        have := few 0 rfl
        omega
      · rintro ⟨k, enough, few, _⟩
        cases most with
        | none => simp at h
        | some x =>
          simp only [Option.any_some, decide_eq_true_eq] at h
          have := few x rfl
          omega
    · next h =>
      have le : ∀ x ∈ most, least ≤ x := by
        rintro x hx
        obtain rfl : most = some x := hx
        simp only [Option.any_some, decide_eq_true_eq] at h
        omega
      refine (exists_congr fun k => and_congr_right' (and_congr_right' (body k))).trans ?_
      have mono : ∀ i j, a.Matches char pos i j → i ≤ j := fun _ _ => Matches.le
      split
      · next zero =>
        have stay : ∀ k, Steps (a.Matches char pos) k i j → i = j := fun k rounds =>
          eq_of_isZeroWidth (e := .times 0 none false a) (by simp [isZeroWidth, zero])
            ⟨k, Nat.zero_le k, ⟨fun x hx => (nomatch hx), rounds⟩⟩
        rcases Nat.decEq i j with differ | same
        · exact iff_of_false (fun ⟨k, _, _, rounds⟩ => differ (stay k rounds))
            (fun ⟨k, _, _, rounds⟩ => differ (stay k rounds))
        · exact rounds_bounded mono (by omega) le
      · exact rounds_bounded mono near le
  | group capturing a ih => exact ih near

end Acceptance.Pattern.Expr
