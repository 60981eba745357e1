import Std.Data.HashMap
import Acceptance.Pattern.Form
import Acceptance.Text.Utf8

/-!
# The size of a pattern

A pattern is refused when one of the two automata that would recognise it takes more than ten
mebibytes: the one that reads a text from its start, and the one that reads it from its end. Both
work on the bytes of UTF-8. This file lays the automata out and counts their bytes.

* `Tally` counts the states so far and their bytes; a state is numbered by the states before it.
* `Memo` remembers the states of a set of characters, so that equal ones are made once.
* `setTally`, `textsTally` and `Form.tally` lay out sets, alternations of texts and forms.
* `Form.fits` compares both automata with the limit.
-/

namespace Acceptance.Pattern

open Text

/-! ## Counting -/

/-- The bytes an automaton may take. -/
def sizeLimit : Nat := 10 * (1 <<< 20)

/-- The bytes of a state. -/
def stateBytes : Nat := 32

/-- The bytes of an arrow of a state that has several, each labelled with a range of bytes. -/
def arrowBytes : Nat := 8

/-- The bytes of a choice of a state that reads nothing. -/
def choiceBytes : Nat := 4

/-- The end of the text from which an automaton reads. -/
inductive Direction where
  | forward
  | backward
deriving DecidableEq, Repr

/-- What has been laid out: the number of states, and their bytes with arrows and choices. -/
structure Tally where
  states : Nat
  bytes : Nat
deriving DecidableEq, Repr

namespace Tally

/-- `n` more states. -/
def add (n : Nat) (t : Tally) : Tally := ⟨t.states + n, t.bytes + stateBytes * n⟩

/-- `n` more arrows. -/
def arrows (n : Nat) (t : Tally) : Tally := { t with bytes := t.bytes + arrowBytes * n }

/-- `n` more choices. -/
def choices (n : Nat) (t : Tally) : Tally := { t with bytes := t.bytes + choiceBytes * n }

/-- Whether the limit is passed. -/
def isOver (t : Tally) : Bool := sizeLimit < t.bytes

/-- Lays something out `n` times, or until the limit is passed. -/
def repeated (layOut : Tally → Tally) : Nat → Tally → Tally
  | 0, t => t
  | n + 1, t => if t.isOver then t else repeated layOut n (layOut t)

end Tally

/-! ## Remembered states -/

/-- Remembered states. There is a fixed number of slots, and a state displaces the one in its slot.
-/
structure Memo where
  slots : Nat
  entries : Std.HashMap Nat (List Nat × Nat)

namespace Memo

/-- No remembered states. -/
def empty (slots : Nat) : Memo := ⟨slots, ∅⟩

/-- Scatters lists of numbers over the words of 64 bits, number by number: exclusive or with the
number, then multiplication with a prime. -/
def hash (key : List Nat) : UInt64 :=
  key.foldl (fun h n => (h ^^^ n.toUInt64) * 1099511628211) 14695981039346656037

/-- The slot of a state. -/
def slot (m : Memo) (key : List Nat) : Nat := (hash key).toNat % m.slots

/-- The number of a remembered state. -/
def find? (m : Memo) (key : List Nat) : Option Nat :=
  match m.entries[m.slot key]? with
  | some (other, n) => if other = key then some n else none
  | none => none

/-- Remembers the number of a state. -/
def insert (m : Memo) (key : List Nat) (n : Nat) : Memo :=
  { m with entries := m.entries.insert (m.slot key) (key, n) }

end Memo

/-! ## Sets of characters -/

/-- What has been laid out of a set, with the states to use again. -/
abbrev SetTally := Tally × Memo

/-- The states that read some products of byte ranges forwards and then go on at the state `target`:
one state for the products that begin alike. The depth `n` is at least the length of the products.
The number of the first state comes with the tally. -/
def forwardStates (target : Nat) : Nat → List (List ByteSpan) → SetTally → Nat × SetTally
  | 0, _, t => (target, t)
  | n + 1, spans, t =>
    if spans.all List.isEmpty then (target, t)
    else
      let groups := spans.splitBy fun s r => s.head? == r.head?
      let (key, t) := groups.foldl (fun (key, t) group =>
        let (next, t) := forwardStates target n (group.map List.tail) t
        match group.head?.bind List.head? with
        | some span => (next :: span.2 :: span.1 :: key, t)
        | none => (key, t)) ([], t)
      let key := key.reverse
      match t.2.find? key with
      | some state => (state, t)
      | none => (t.1.states, (t.1.add 1).arrows groups.length, t.2.insert key t.1.states)

/-- The states that read a product of byte ranges backwards and then go on at the state `target`. -/
def backwardStates (target : Nat) : List ByteSpan → SetTally → SetTally
  | [], t => t
  | span :: rest, t =>
    let key := [target, span.1, span.2]
    match t.2.find? key with
    | some state => backwardStates state rest t
    | none => backwardStates t.1.states rest (t.1.add 1, t.2.insert key t.1.states)

/-- Lays out a set, unless the limit is passed. ASCII characters need one state; other characters
need several, and equal ones are made once as far as they are remembered. -/
def setTally (d : Direction) (s : CharSet) (t : Tally) : Tally :=
  if t.isOver then t
  else if s.isAscii then (t.add 2).arrows s.ranges.length
  else
    match d with
    | .forward => (forwardStates t.states 4 s.utf8Spans (t.add 1, .empty 10000)).2.1
    | .backward =>
      let spans := s.utf8Spans
      let target := t.states + 1
      let t := spans.foldl (fun t span => backwardStates target span t) (t.add 2, .empty 1000)
      t.1.choices spans.length

/-! ## Alternations of texts -/

/-- Cuts what is left of some texts where one of them is over. Texts that are over before any other
goes on count once. -/
def chunks (texts : List (List Nat)) : List (List (List Nat)) :=
  let rest := texts.dropWhile List.isEmpty
  let first := if rest.length < texts.length then [[]] else []
  first ++ (rest.foldr (fun s parts =>
    match s, parts with
    | [], parts => [] :: parts
    | s, part :: parts => (s :: part) :: parts
    | s, [] => [[s]]) [[]])

/-- Lays out the tree of some texts, which share the states of what they begin with. A state for
each place where texts part or end chooses among its chunks, and a chunk reads one byte. The depth
`n` is at least the length of the texts. -/
def treeTally : Nat → List (List Nat) → Tally → Tally
  | 0, _, t => t
  | n + 1, texts, t =>
    let parts := chunks texts
    let t := parts.foldl (fun t part =>
      let groups := (part.mergeSort fun s r => s.headD 0 ≤ r.headD 0).splitBy fun s r =>
        s.head? == r.head?
      let t := groups.foldl (fun t group =>
        let rest := group.map List.tail
        if rest.all List.isEmpty then t else treeTally n rest t) t
      match groups.length with
      | 0 => t
      | 1 => (t.add 1).choices 1
      | k => ((t.add 1).arrows k).choices 1) t
    (t.add 1).choices (parts.length - 1)

/-- Lays out an alternation of texts. -/
def textsTally (d : Direction) (texts : List (List Char)) (t : Tally) : Tally :=
  let texts := texts.map fun s => match d with
    | .forward => utf8Bytes s
    | .backward => (utf8Bytes s).reverse
  treeTally ((texts.map List.length).foldl max 0) texts (t.add 1)

/-! ## Forms -/

namespace Form

/-- The text of a form that is a text. -/
def text? : Form → Option (List Char)
  | .text s => some s
  | _ => none

/-- Lays out a repetition of what `body` lays out, of which `minLength` is the least length. -/
def timesTally (body : Tally → Tally) (minLength : Option Nat) (least : Nat) :
    Option Nat → Tally → Tally
  | none, t =>
    if least = 0 then
      if minLength.any (0 < ·) then (body (t.add 1)).choices 2
      else ((body t).add 3).choices 4
    else ((Tally.repeated body least t).add 1).choices 2
  | some most, t =>
    if least = 0 ∧ most = 1 then ((body (t.add 1)).add 1).choices 2
    else
      let t := if least = 0 then t.add 1 else Tally.repeated body least t
      if least = most then t
      else Tally.repeated (fun t => (body (t.add 1)).choices 2) (most - least) (t.add 1)

/-- Ends the layout of a branch before which there are `n` others in its alternation. The choice
among the branches is laid out after the second one. -/
def endBranch (n : Nat) (t : Tally) : Tally :=
  match n with
  | 0 => t
  | 1 => (t.add 2).choices 2
  | _ => t.choices 1

/-- Lays out a form before which there are `n` branches in its alternation. -/
def tally (d : Direction) : Form → Nat → Tally → Tally
  | .empty, n, t => endBranch n (t.add 1)
  | .text s, n, t => endBranch n (t.add (utf8Bytes s).length)
  | .set k, n, t => endBranch n (setTally d k.set t)
  | .look _, n, t => endBranch n (t.add 1)
  | .times least most _ body, n, t =>
    endBranch n (timesTally (body.tally d 0) body.minLength least most t)
  | .capture body, n, t =>
    endBranch n (match d with
      | .forward => (body.tally d 0 (t.add 1)).add 1
      | .backward => body.tally d 0 t)
  | .seq a b, n, t =>
    endBranch n (match d with
      | .forward => b.tally d 0 (a.tally d 0 t)
      | .backward => a.tally d 0 (b.tally d 0 t))
  | .alt a b, n, t =>
    match n, (Form.alt a b).branches.mapM text? with
    | 0, some texts => textsTally d texts t
    | n, _ => b.tally d (n + 1) (a.tally d n t)

/-- The bytes of an automaton for a form. Unless the form matches at one end of the text only, the
automaton first skips what stands before a match. The whole is a group, and a last state follows. -/
def bytes (d : Direction) (f : Form) : Nat :=
  let anchored := match d with
    | .forward => f.startsAnchored
    | .backward => f.endsAnchored
  let none : Tally := ⟨0, 0⟩
  let start := if anchored then none.add 1 else ((none.add 3).arrows 1).choices 2
  (((Form.capture f).tally d 0 start).add 1).bytes

/-- Whether both automata of a form fit into the limit. -/
def fits (f : Form) : Bool :=
  f.bytes .forward ≤ sizeLimit && f.bytes .backward ≤ sizeLimit

end Form

/-- Whether a pattern is small enough. -/
def Expr.fits (e : Expr CharClass Look) : Bool := (Form.ofExpr e).fits

end Acceptance.Pattern
