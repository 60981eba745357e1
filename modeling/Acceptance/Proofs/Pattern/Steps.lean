import Acceptance.Pattern.Expr

/-!
# Steps from position to position

Laws of repeated steps of a relation that never leads back, and what follows for matches.

* `steps_move` finds the first step that moves; `steps_stay` is about steps that do not, and
  `exists_later_or_here_iff` tells the two apart in the middle of a match.
* `steps_iff_of_le`: more steps than there are positions between the ends can be any number of them.
* `Expr.Matches.le` and `Expr.Matches.le_of_char`: a match leads forwards and stays in the text.
-/

namespace Acceptance.Pattern

theorem steps_le {R : Nat → Nat → Prop} (mono : ∀ i j, R i j → i ≤ j) {n i j : Nat}
    (h : Steps R n i j) : i ≤ j := by
  induction n generalizing i with
  | zero => exact Nat.le_of_eq h
  | succ n ih =>
    obtain ⟨m, first, rest⟩ := h
    exact Nat.le_trans (mono i m first) (ih rest)

theorem steps_self {R : Nat → Nat → Prop} {i : Nat} (h : R i i) (n : Nat) : Steps R n i i := by
  induction n with
  | zero => rfl
  | succ n ih => exact ⟨i, h, ih⟩

theorem steps_add {R : Nat → Nat → Prop} {m n i k j : Nat} (first : Steps R m i k)
    (second : Steps R n k j) : Steps R (m + n) i j := by
  induction m generalizing i with
  | zero =>
    obtain rfl : i = k := first
    simpa using second
  | succ m ih =>
    obtain ⟨l, step, rest⟩ := first
    rw [Nat.succ_add]
    exact ⟨l, step, ih rest⟩

/-- Steps from a position to a later one: some of them stay, one moves, and the others follow. -/
theorem steps_move {R : Nat → Nat → Prop} (mono : ∀ i j, R i j → i ≤ j) {n i j : Nat}
    (h : Steps R n i j) (move : i < j) :
    ∃ k m l, n = k + 1 + l ∧ (0 < k → R i i) ∧ i < m ∧ R i m ∧ Steps R l m j := by
  induction n with
  | zero =>
    obtain rfl : i = j := h
    exact absurd move (Nat.lt_irrefl i)
  | succ n ih =>
    obtain ⟨m, first, rest⟩ := h
    rcases Nat.lt_or_ge i m with later | stay
    · exact ⟨0, m, n, by omega, by omega, later, first, rest⟩
    · obtain rfl : m = i := Nat.le_antisymm stay (mono i m first)
      obtain ⟨k, m', l, count, _, later, step, follow⟩ := ih rest
      exact ⟨k + 1, m', l, by omega, fun _ => first, later, step, follow⟩

/-- What leads on through a position either has come to a later one, or goes on from the one where
it is. -/
theorem exists_later_or_here_iff {X : Nat → Prop} {R : Nat → Nat → Prop} {p j : Nat}
    (ahead : ∀ m, X m → p ≤ m) (mono : ∀ i j, R i j → i ≤ j) :
    ((∃ m, (p < m ∧ X m) ∧ R m j) ∨ (p < j ∧ X p ∧ R p j)) ↔ p < j ∧ ∃ m, X m ∧ R m j := by
  constructor
  · rintro (⟨m, ⟨later, h⟩, rest⟩ | ⟨later, h, rest⟩)
    · exact ⟨Nat.lt_of_lt_of_le later (mono m j rest), m, h, rest⟩
    · exact ⟨later, p, h, rest⟩
  · rintro ⟨later, m, h, rest⟩
    rcases Nat.eq_or_lt_of_le (ahead m h) with rfl | further
    · exact .inr ⟨later, h, rest⟩
    · exact .inl ⟨m, ⟨further, h⟩, rest⟩

/-- Steps that stay at a position are steps from it to itself. -/
theorem steps_stay {R : Nat → Nat → Prop} (mono : ∀ i j, R i j → i ≤ j) {n i : Nat}
    (h : Steps R n i i) (pos : 0 < n) : R i i := by
  cases n with
  | zero => exact absurd pos (Nat.lt_irrefl 0)
  | succ n =>
    obtain ⟨m, first, rest⟩ := h
    have ahead := mono i m first
    have back := steps_le mono rest
    obtain rfl : m = i := Nat.le_antisymm back ahead
    exact first

theorem steps_succ {R : Nat → Nat → Prop} (mono : ∀ i j, R i j → i ≤ j) {k i j : Nat}
    (h : Steps R k i j) (near : j < i + k) : Steps R (k + 1) i j := by
  induction k generalizing i with
  | zero =>
    obtain rfl : i = j := h
    omega
  | succ k ih =>
    obtain ⟨m, first, rest⟩ := h
    rcases Nat.eq_or_lt_of_le (mono i m first) with rfl | ahead
    · exact ⟨i, first, i, first, rest⟩
    · exact ⟨m, first, ih rest (by omega)⟩

theorem steps_pred {R : Nat → Nat → Prop} (mono : ∀ i j, R i j → i ≤ j) {k i j : Nat}
    (h : Steps R (k + 1) i j) (near : j < i + (k + 1)) : Steps R k i j := by
  induction k generalizing i with
  | zero =>
    obtain ⟨m, first, rfl⟩ := h
    exact Nat.le_antisymm (mono i m first) (by omega)
  | succ k ih =>
    obtain ⟨m, first, rest⟩ := h
    rcases Nat.eq_or_lt_of_le (mono i m first) with rfl | ahead
    · exact rest
    · exact ⟨m, first, ih rest (by omega)⟩

/-- More steps than there are positions between the ends can be any number of such steps. -/
theorem steps_iff_of_le {R : Nat → Nat → Prop} (mono : ∀ i j, R i j → i ≤ j) {n k i j : Nat}
    (near : j < i + n) (le : n ≤ k) : Steps R k i j ↔ Steps R n i j := by
  induction le with
  | refl => rfl
  | @step m le ih =>
    have : n ≤ m := le
    rw [← ih]
    exact ⟨fun h => steps_pred mono h (by omega), fun h => steps_succ mono h (by omega)⟩

theorem steps_congr {R S : Nat → Nat → Prop} (monoR : ∀ i j, R i j → i ≤ j)
    (monoS : ∀ i j, S i j → i ≤ j) {k i j : Nat}
    (same : ∀ i' j', i ≤ i' → j' ≤ j → (R i' j' ↔ S i' j')) : Steps R k i j ↔ Steps S k i j := by
  induction k generalizing i with
  | zero => rfl
  | succ k ih =>
    constructor
    · rintro ⟨m, first, rest⟩
      have := monoR i m first
      have := steps_le monoR rest
      exact ⟨m, (same i m (Nat.le_refl i) this).1 first,
        (ih fun i' j' hi hj => same i' j' (by omega) hj).1 rest⟩
    · rintro ⟨m, first, rest⟩
      have := monoS i m first
      have := steps_le monoS rest
      exact ⟨m, (same i m (Nat.le_refl i) this).2 first,
        (ih fun i' j' hi hj => same i' j' (by omega) hj).2 rest⟩

theorem steps_le_of {R : Nat → Nat → Prop} {n : Nat} (inside : ∀ i j, R i j → i ≤ n → j ≤ n)
    {k i j : Nat} (h : Steps R k i j) (le : i ≤ n) : j ≤ n := by
  induction k generalizing i with
  | zero =>
    obtain rfl : i = j := h
    exact le
  | succ k ih =>
    obtain ⟨m, first, rest⟩ := h
    exact ih rest (inside i m first le)

/-! ## Matches -/

namespace Expr

variable {κ μ : Type}

/-- A match does not end before it starts. -/
theorem Matches.le {char : κ → Nat → Prop} {pos : μ → Nat → Prop} {e : Expr κ μ} {i j : Nat}
    (h : e.Matches char pos i j) : i ≤ j := by
  induction e generalizing i j with
  | empty => exact Nat.le_of_eq h
  | one k => exact h.2 ▸ Nat.le_succ i
  | look l => exact Nat.le_of_eq h.2.symm
  | seq a b iha ihb =>
    obtain ⟨m, first, second⟩ := h
    exact Nat.le_trans (iha first) (ihb second)
  | alt a b iha ihb => exact h.elim iha ihb
  | times least most isLazy a ih =>
    obtain ⟨n, _, _, rounds⟩ := h
    exact steps_le (fun i j => ih) rounds
  | group capturing a ih => exact ih h

/-- A match that starts in a text ends in it. -/
theorem Matches.le_of_char {char : κ → Nat → Prop} {pos : μ → Nat → Prop} {n : Nat}
    (inside : ∀ k i, char k i → i < n) {e : Expr κ μ} {i j : Nat} (h : e.Matches char pos i j)
    (le : i ≤ n) : j ≤ n := by
  induction e generalizing i j with
  | empty =>
    obtain rfl : i = j := h
    exact le
  | one k => exact h.2 ▸ inside k i h.1
  | look l => exact h.2 ▸ le
  | seq a b iha ihb =>
    obtain ⟨m, first, second⟩ := h
    exact ihb second (iha first le)
  | alt a b iha ihb => exact h.elim (fun h => iha h le) (fun h => ihb h le)
  | times least most isLazy a ih =>
    obtain ⟨k, _, _, rounds⟩ := h
    exact steps_le_of (fun _ _ => ih) rounds le
  | group capturing a ih => exact ih h le

end Expr

end Acceptance.Pattern
