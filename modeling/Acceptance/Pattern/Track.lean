import Acceptance.Pattern.Expr

/-!
# Following an expression through a text

A text is read from left to right, and all matches of an expression are followed at once: the tests
that have just accepted a character are marked, and every character that is read moves the marks on.

A match inside of a repetition has to know the number of its round. So the marks of a test are a set
of numbers, which is kept as the bits of a number. With `w` numbers outside of a repetition, number
`c` in round `r`, counted from `0`, is number `r * w + c` inside of it.

* `Track` is an expression with its marks; `Expr.track` has none.
* `Track.step` crosses a position: it says which matches end there and reads the next character.
* `roundStarts` and `roundEnds` say which numbers enter a round and which end a repetition.
* `Expr.bounded` limits the counts of repetitions; a repetition needs no more rounds than a text has
  positions.
-/

namespace Acceptance.Pattern

/-- A test with the numbers of the matches that it has just let pass, as bits. -/
structure Marked (κ : Type) where
  test : κ
  marks : Nat
deriving DecidableEq, Repr

/-- An expression in the middle of a text. -/
abbrev Track (κ μ : Type) := Expr (Marked κ) μ

variable {κ μ : Type}

/-- The track without marks. -/
def Expr.track (e : Expr κ μ) : Track κ μ := e.map (⟨·, 0⟩) id

/-! ## Rounds -/

/-- The numbers of `2 ^ k` rounds together, with `w` numbers in each. -/
def gather (w : Nat) : Nat → Nat → Nat
  | 0, s => s
  | k + 1, s =>
    let t := gather w k s
    t ||| t >>> (w <<< k)

/-- The numbers of a round and of the `2 ^ k - 1` rounds before it, with `w` numbers in each. -/
def spread (w : Nat) : Nat → Nat → Nat
  | 0, s => s
  | k + 1, s =>
    let t := spread w k s
    t ||| t <<< (w <<< k)

/-- The numbers below `w`. -/
def below (w s : Nat) : Nat := s &&& ((1 <<< w) - 1)

/-- The number of rounds that are told apart. If there may be any number of rounds, then all from
the least number on are one. -/
def roundCount (least : Nat) : Option Nat → Nat
  | none => max least 1
  | some most => most

/-- The numbers of the rounds that are entered at a position: the numbers in `start` enter the first
round, and those in `ends`, which have come to the end of a round, the next one. If there may be any
number of rounds, then the last one may be entered again, and if a round may be empty, then so may
all later ones. -/
def roundStarts (w rounds : Nat) (isOpen passes : Bool) (start ends : Nat) : Nat :=
  let last := w * (rounds - 1)
  let starts := start ||| (ends <<< w ||| (if isOpen then ends >>> last <<< last else 0))
  below (w * rounds) (if passes then spread w (Nat.log2 rounds + 1) starts else starts)

/-- The numbers of the repetitions that end at a position: there have been enough rounds, or enough
empty ones may follow. -/
def roundEnds (w least rounds : Nat) (passes : Bool) (ends : Nat) : Nat :=
  let enough := if passes && least ≤ rounds then ends else ends >>> (w * (least - 1))
  below w (gather w (Nat.log2 rounds + 1) enough)

/-! ## Reading -/

/-- What happens to a track at a position: the numbers of the matches that end there, whether the
empty stretch there is a match, and the track after the next character, when matches with some
numbers start at the position. -/
structure Crossing (κ μ : Type) where
  ends : Nat
  passes : Bool
  next : Nat → Track κ μ

/-- Crosses a position with `w` numbers, where `char` says which tests accept the character after it
and `pos` which conditions the position passes. -/
def Track.step (char : κ → Bool) (pos : μ → Bool) (w : Nat) : Track κ μ → Crossing κ μ
  | .empty => ⟨0, true, fun _ => .empty⟩
  | .one k =>
    ⟨k.marks, false, fun start => .one ⟨k.test, if start != 0 && char k.test then start else 0⟩⟩
  | .look l => ⟨0, pos l, fun _ => .look l⟩
  | .seq a b =>
    let p := Track.step char pos w a
    let q := Track.step char pos w b
    ⟨(if q.passes then p.ends ||| q.ends else q.ends), p.passes && q.passes,
      fun start => .seq (p.next start) (q.next (if p.passes then p.ends ||| start else p.ends))⟩
  | .alt a b =>
    let p := Track.step char pos w a
    let q := Track.step char pos w b
    ⟨p.ends ||| q.ends, p.passes || q.passes, fun start => .alt (p.next start) (q.next start)⟩
  | .times least most isLazy a =>
    let rounds := roundCount least most
    let p := Track.step char pos (w * rounds) a
    ⟨roundEnds w least rounds p.passes p.ends, least == 0 || (least ≤ rounds && p.passes),
      fun start =>
        .times least most isLazy (p.next (roundStarts w rounds most.isNone p.passes start p.ends))⟩
  | .group capturing a =>
    let p := Track.step char pos w a
    ⟨p.ends, p.passes, fun start => .group capturing (p.next start)⟩

/-! ## Counts -/

namespace Expr

/-- Whether an expression matches empty stretches only. -/
def isZeroWidth : Expr κ μ → Bool
  | .empty | .look _ => true
  | .one _ => false
  | .seq a b | .alt a b => a.isZeroWidth && b.isZeroWidth
  | .times _ most _ a => most == some 0 || a.isZeroWidth
  | .group _ a => a.isZeroWidth

/-- An expression with no count of a repetition above `n`. The rounds of a repetition of empty
stretches are all alike, so one is enough. -/
def bounded (n : Nat) : Expr κ μ → Expr κ μ
  | .empty => .empty
  | .one k => .one k
  | .look l => .look l
  | .seq a b => .seq (a.bounded n) (b.bounded n)
  | .alt a b => .alt (a.bounded n) (b.bounded n)
  | .times least most isLazy a =>
    let enough := if a.isZeroWidth then 1 else n
    if most.any (· < least) then .times 1 (some 0) isLazy (a.bounded n)
    else .times (min least enough) (most.map (min · enough)) isLazy (a.bounded n)
  | .group capturing a => .group capturing (a.bounded n)

end Expr

end Acceptance.Pattern
