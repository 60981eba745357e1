/-!
# Regular expressions and where they match

An expression describes stretches of a text. Positions are counted from `0`, before the first
character, to the length of the text, after the last one.

* `Expr κ μ` has leaves of two kinds: `κ` tests a character, `μ` tests a position.
* `Expr.Matches` says that an expression matches from one position to another.
* `Expr.map` changes the tests in the leaves, and `matches_map` says what that means for matches.
-/

namespace Acceptance.Pattern

/-- A regular expression over tests of characters `κ` and tests of positions `μ`. A lazy repetition
would rather have fewer rounds, and a capturing group remembers where it matched. -/
inductive Expr (κ μ : Type) where
  | empty
  | one (k : κ)
  | look (l : μ)
  | seq (a b : Expr κ μ)
  | alt (a b : Expr κ μ)
  | times (least : Nat) (most : Option Nat) (isLazy : Bool) (a : Expr κ μ)
  | group (capturing : Bool) (a : Expr κ μ)
deriving DecidableEq, Repr

/-- `n` steps of a relation between positions. -/
def Steps (R : Nat → Nat → Prop) : Nat → Nat → Nat → Prop
  | 0, i, j => i = j
  | n + 1, i, j => ∃ m, R i m ∧ Steps R n m j

namespace Expr

variable {κ μ κ' μ' : Type}

/-- The expression with other tests in its leaves. -/
def map (f : κ → κ') (g : μ → μ') : Expr κ μ → Expr κ' μ'
  | .empty => .empty
  | .one k => .one (f k)
  | .look l => .look (g l)
  | .seq a b => .seq (a.map f g) (b.map f g)
  | .alt a b => .alt (a.map f g) (b.map f g)
  | .times least most isLazy a => .times least most isLazy (a.map f g)
  | .group capturing a => .group capturing (a.map f g)

/-- An expression matches from position `i` to position `j` of a text, where `char k i` says that
the character after position `i` passes the test `k` and `pos l i` that position `i` passes `l`. -/
def Matches (char : κ → Nat → Prop) (pos : μ → Nat → Prop) : Expr κ μ → Nat → Nat → Prop
  | .empty, i, j => i = j
  | .one k, i, j => char k i ∧ j = i + 1
  | .look l, i, j => pos l i ∧ j = i
  | .seq a b, i, j => ∃ m, a.Matches char pos i m ∧ b.Matches char pos m j
  | .alt a b, i, j => a.Matches char pos i j ∨ b.Matches char pos i j
  | .times least most _ a, i, j =>
    ∃ n, least ≤ n ∧ (∀ h ∈ most, n ≤ h) ∧ Steps (a.Matches char pos) n i j
  | .group _ a, i, j => a.Matches char pos i j

theorem matches_map (f : κ → κ') (g : μ → μ') (char : κ' → Nat → Prop) (pos : μ' → Nat → Prop)
    (e : Expr κ μ) :
    (e.map f g).Matches char pos = e.Matches (char ∘ f) (pos ∘ g) := by
  induction e with
  | empty => rfl
  | one k => rfl
  | look l => rfl
  | seq a b iha ihb => funext i j; simp only [map, Matches, iha, ihb]
  | alt a b iha ihb => funext i j; simp only [map, Matches, iha, ihb]
  | times least most isLazy a ih => funext i j; simp only [map, Matches, ih]
  | group capturing a ih => funext i j; simp only [map, Matches, ih]

end Expr

end Acceptance.Pattern
