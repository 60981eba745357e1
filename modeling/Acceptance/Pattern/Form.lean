import Acceptance.Pattern.Meaning

/-!
# Normal forms of expressions

Two expressions that are written differently may be laid out as the same automaton. The form of an
expression is what remains when groups that capture nothing are taken apart, neighbouring characters
are joined to texts, alternations of single characters are joined to classes, and what the branches
of an alternation begin with is written once.

* `Form.append` puts the parts of sequences together, `Form.repetition` and `Form.alternation` build
  forms from forms.
* `Form.ofExpr` is the form of an expression.
* `Form.isZeroWidth`, `Form.minLength`, `Form.startsAnchored` and `Form.endsAnchored` are facts that
  the layout depends on.
-/

namespace Acceptance.Pattern

/-- An expression in normal form. The first part of a sequence is no sequence itself, and the first
branch of an alternation is no alternation. -/
inductive Form where
  | empty
  | text (s : List Char)
  | set (k : CharClass)
  | look (l : Look)
  | times (least : Nat) (most : Option Nat) (isLazy : Bool) (body : Form)
  | capture (body : Form)
  | seq (a b : Form)
  | alt (a b : Form)
deriving DecidableEq, Repr

namespace Form

/-! ## Facts -/

/-- Whether a form matches empty stretches only. -/
def isZeroWidth : Form → Bool
  | .empty | .look _ => true
  | .text _ | .set _ => false
  | .times _ most _ body => most.isSome && body.isZeroWidth
  | .capture body => body.isZeroWidth
  | .seq a b | .alt a b => a.isZeroWidth && b.isZeroWidth

/-- The least number of characters that a form matches. A class without members has none. -/
def minLength : Form → Option Nat
  | .empty | .look _ => some 0
  | .text s => some s.length
  | .set k => if k.set.ranges.isEmpty then none else some 1
  | .times least _ _ body => body.minLength.map (least * ·)
  | .capture body => body.minLength
  | .seq a b => do some ((← a.minLength) + (← b.minLength))
  | .alt a b => do some (min (← a.minLength) (← b.minLength))

/-- Whether the conditions before the first character hold at the start of the text only. -/
def startsAnchored : Form → Bool
  | .look l => l == .start
  | .empty | .text _ | .set _ => false
  | .times least _ _ body => 0 < least && body.startsAnchored
  | .capture body => body.startsAnchored
  | .seq a b => a.startsAnchored || (a.isZeroWidth && b.startsAnchored)
  | .alt a b => a.startsAnchored && b.startsAnchored

/-- Whether the conditions after the last character hold at the end of the text only. -/
def endsAnchored : Form → Bool
  | .look l => l == .stop
  | .empty | .text _ | .set _ => false
  | .times least _ _ body => 0 < least && body.endsAnchored
  | .capture body => body.endsAnchored
  | .seq a b => b.endsAnchored || (b.isZeroWidth && a.endsAnchored)
  | .alt a b => a.endsAnchored && b.endsAnchored

/-- Whether a form holds a capturing group. -/
def captures : Form → Bool
  | .empty | .text _ | .set _ | .look _ => false
  | .times _ _ _ body => body.captures
  | .capture _ => true
  | .seq a b | .alt a b => a.captures || b.captures

/-- Whether two parts are interchangeable. Two capturing groups never are. -/
def same (a b : Form) : Bool := a == b && !a.captures

/-! ## Classes -/

/-- The class without members. Its members are bytes. -/
def nothing : Form := .set ⟨.empty, true⟩

/-- One character of a class. A class of one character is a text. -/
def ofClass (k : CharClass) : Form :=
  let s := k.set.scalars
  match s.ranges with
  | [] => nothing
  | [(a, b)] => if a = b then .text [Char.ofNat a] else .set ⟨s, k.ofBytes⟩
  | _ => .set ⟨s, k.ofBytes⟩

/-! ## Sequences -/

/-- The parts of a sequence. -/
def items : Form → List Form
  | .empty => []
  | .seq a b => a :: b.items
  | f => [f]

/-- The sequence of some parts. -/
def ofItems : List Form → Form
  | [] => .empty
  | [f] => f
  | f :: g :: rest => .seq f (ofItems (g :: rest))

/-- Some parts with one more before them. Neighbouring texts are joined. -/
def prepend : Form → List Form → List Form
  | .empty, fs => fs
  | .text s, .text t :: fs => .text (s ++ t) :: fs
  | f, fs => f :: fs

/-- The parts of one sequence after another. -/
def append (fs gs : List Form) : List Form := fs.foldr prepend gs

/-! ## Repetitions -/

/-- A form repeated. Repeating empty stretches is the same as taking one or none. -/
def repetition (least : Nat) (most : Option Nat) (isLazy : Bool) (f : Form) : Form :=
  let (least, most) := if f.isZeroWidth then (min least 1, some (min (most.getD 1) 1))
    else (least, most)
  if most = some 0 then .empty
  else if least = 1 ∧ most = some 1 then f
  else .times least most isLazy f

/-! ## Alternations -/

/-- The branches of an alternation. -/
def branches : Form → List Form
  | .alt a b => a :: b.branches
  | f => [f]

/-- The alternation of some branches. Nothing matches where there is none. -/
def ofBranches : List Form → Form
  | [] => nothing
  | [f] => f
  | f :: g :: rest => .alt f (ofBranches (g :: rest))

/-- The character of a text of one character. -/
def char? : Form → Option Char
  | .text [c] => some c
  | _ => none

/-- The set of a form that is a class. -/
def set? : Form → Option CharSet
  | .set k => some k.set
  | _ => none

/-- The number of constructors in a form. -/
def size : Form → Nat
  | .empty | .text _ | .set _ | .look _ => 1
  | .times _ _ _ body | .capture body => body.size + 1
  | .seq a b | .alt a b => a.size + b.size + 1

/-- What two lists of parts begin with, where the parts are interchangeable. -/
def commonParts : List Form → List Form → List Form
  | f :: fs, g :: gs => if f.same g then f :: commonParts fs gs else []
  | _, _ => []

/-- The parts that all branches begin with. Branches that are no sequences have none. -/
def commonPrefix : List Form → List Form
  | [] => []
  | f :: fs =>
    fs.foldl (fun common g => commonParts common (if g.items.length < 2 then [] else g.items))
      (if f.items.length < 2 then [] else f.items)

/-- The alternation of some branches, none of which is an alternation, in at most `n` rounds: single
characters make a class, classes make their union, whose members are characters, and in every other
case the common parts at the start of the branches are written once. -/
def joinBranches : Nat → List Form → Form
  | 0, fs => ofBranches fs
  | n + 1, fs =>
    if fs.length < 2 then ofBranches fs
    else
      match fs.mapM char? with
      | some cs => ofClass ⟨CharSet.unions (cs.map CharSet.single), false⟩
      | none =>
        match fs.mapM set? with
        | some ss => ofClass ⟨CharSet.unions ss, false⟩
        | none =>
          match commonPrefix fs with
          | [] => ofBranches fs
          | f :: common =>
            let rests := fs.map fun g => ofItems (g.items.drop (common.length + 1))
            ofItems (append (f :: common) (joinBranches n (rests.flatMap branches)).items)

/-- The alternation of some forms. Each round takes a part from every branch, so the size of the
forms bounds their number. -/
def alternation (fs : List Form) : Form :=
  joinBranches (fs.foldl (fun n f => n + f.size) 0) (fs.flatMap branches)

/-! ## Expressions -/

/-- The parts of the alternation of some branches, each given by its parts. -/
def joined : List (List Form) → List Form
  | [fs] => fs
  | bs => (alternation (bs.map ofItems)).items

/-- The branches of an expression, each with its parts. -/
def branchesOf : Expr CharClass Look → List (List Form)
  | .empty => [[]]
  | .one k => [[ofClass k]]
  | .look l => [[.look l]]
  | .seq a b => [append (joined (branchesOf a)) (joined (branchesOf b))]
  | .alt a b => joined (branchesOf a) :: branchesOf b
  | .times least most isLazy a =>
    [(repetition least most isLazy (ofItems (joined (branchesOf a)))).items]
  | .group false a => [joined (branchesOf a)]
  | .group true a => [[.capture (ofItems (joined (branchesOf a)))]]

/-- The form of an expression. -/
def ofExpr (e : Expr CharClass Look) : Form := ofItems (joined (branchesOf e))

end Form

end Acceptance.Pattern
