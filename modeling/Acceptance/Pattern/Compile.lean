import Acceptance.Pattern.Reader
import Acceptance.Pattern.Size
import Acceptance.Pattern.Track

/-!
# Compiled patterns

A text becomes an expression when it can be read, is not nested too deep, has a meaning and is not
too large.

* `Fault` says which of these fails, `compile` is the expression or the fault.
* `isMatch` decides whether an expression matches somewhere in a text; `Finds` says what that means.
-/

namespace Acceptance.Pattern

/-- The reasons for which a text is refused as a pattern. It is meaningless if a class is unknown or
if it could match a part of a character. -/
inductive Fault where
  | unreadable
  | tooDeep
  | meaningless
  | tooLarge
deriving DecidableEq, Repr

/-- The expression of a text. -/
def compile (s : List Char) : Except Fault (Expr CharClass Look) :=
  match Tree.read? s with
  | none => .error .unreadable
  | some t =>
    if depthLimit < t.depth then .error .tooDeep
    else
      match t.meaning? {} with
      | none => .error .meaningless
      | some (e, _) => if e.fits then .ok e else .error .tooLarge

/-! ## Matching -/

/-- The characters before and after each position of a text, where `before` stands before it. -/
def neighbours (before : Option Char) : List Char → List (Option Char × Option Char)
  | [] => [(before, none)]
  | c :: r => (before, some c) :: neighbours (some c) r

/-- The character after position `i` of a text is in a class. -/
def CharAt (text : List Char) (k : CharClass) (i : Nat) : Prop :=
  ∃ c, text[i]? = some c ∧ k.set.contains c = true

/-- Position `i` of a text passes a condition. -/
def LookAt (text : List Char) (l : Look) (i : Nat) : Prop :=
  ∃ p, (neighbours none text)[i]? = some p ∧ l.holds (.of p.1) (.of p.2) = true

/-- An expression matches a text from position `i` to position `j`. -/
def Spans (e : Expr CharClass Look) (text : List Char) (i j : Nat) : Prop :=
  e.Matches (CharAt text) (LookAt text) i j

/-- An expression matches somewhere in a text. -/
def Finds (e : Expr CharClass Look) (text : List Char) : Prop :=
  ∃ i j, i ≤ text.length ∧ Spans e text i j

/-- Whether a match on a track ends in a text, where `before` stands before the text. New matches
start at every position. -/
def Track.finds (before : Side) : List Char → Track CharClass Look → Bool
  | [], t =>
    let here := t.step (fun _ => false) (fun l => l.holds before (.of none)) 1
    here.ends != 0 || here.passes
  | c :: rest, t =>
    let after := Side.of (some c)
    let here := t.step (fun k => k.set.contains c) (fun l => l.holds before after) 1
    here.ends != 0 || here.passes || Track.finds after rest (here.next 1)

/-- Whether an expression matches somewhere in a text. -/
def isMatch (e : Expr CharClass Look) (text : List Char) : Bool :=
  Track.finds (.of none) text (e.bounded (text.length + 1)).track

end Acceptance.Pattern
