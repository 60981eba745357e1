/-!
# Written patterns

The structure of a pattern as it is written, before flags and character classes are given a meaning.

* `Tree` is a pattern, `ClassTree` the inside of a character class in brackets.
* `Tree.ofItems` and `Tree.ofBranches` join the parts of a concatenation and of an alternation.
* `Tree.depth` counts how deep the written structure is nested.
-/

namespace Acceptance.Pattern

/-- The flags that a pattern can set, `i`, `m`, `s`, `U`, `u`, `R` and `x`. -/
inductive Flag where
  | ignoreCase
  | multiLine
  | dotAll
  | swapGreed
  | unicode
  | crlf
  | verbose
deriving DecidableEq, Repr

/-- The letter of a flag. -/
def Flag.ofLetter? : Char → Option Flag
  | 'i' => some .ignoreCase
  | 'm' => some .multiLine
  | 's' => some .dotAll
  | 'U' => some .swapGreed
  | 'u' => some .unicode
  | 'R' => some .crlf
  | 'x' => some .verbose
  | _ => none

/-- A list of flags with the value each is set to. -/
abbrev FlagSettings := List (Flag × Bool)

/-- A single character. It is a byte only if it was written as `\x` with two digits. -/
structure Literal where
  char : Char
  isByte : Bool
deriving DecidableEq, Repr

/-- The classes of ASCII characters that have a name in brackets, such as `[:alpha:]`. -/
inductive AsciiClass where
  | alnum | alpha | ascii | blank | cntrl | digit | graph | lower | print | punct | space | upper
  | word | xdigit
deriving DecidableEq, Repr

/-- The name of a class of ASCII characters. -/
def AsciiClass.ofName? (name : List Char) : Option AsciiClass :=
  match String.ofList name with
  | "alnum" => some .alnum
  | "alpha" => some .alpha
  | "ascii" => some .ascii
  | "blank" => some .blank
  | "cntrl" => some .cntrl
  | "digit" => some .digit
  | "graph" => some .graph
  | "lower" => some .lower
  | "print" => some .print
  | "punct" => some .punct
  | "space" => some .space
  | "upper" => some .upper
  | "word" => some .word
  | "xdigit" => some .xdigit
  | _ => none

/-- A class of characters that is written by name: `\d`, `\s`, `\w`, `[:name:]`, `\p{name}` or
`\p{name=value}`. -/
inductive NamedClass where
  | digit
  | space
  | word
  | ascii (k : AsciiClass)
  | property (name : List Char)
  | propertyValue (name value : List Char)
deriving DecidableEq, Repr

/-- Conditions on a position between two characters, `^`, `$`, `\A`, `\z`, `\b`, `\B`, `\b{start}`,
`\b{end}`, `\b{start-half}` and `\b{end-half}`. -/
inductive Assertion where
  | lineStart
  | lineEnd
  | textStart
  | textEnd
  | wordBoundary
  | noWordBoundary
  | wordStart
  | wordEnd
  | wordStartHalf
  | wordEndHalf
deriving DecidableEq, Repr

/-- The operations `&&`, `--` and `~~` between the parts of a class in brackets. -/
inductive SetOp where
  | intersection
  | difference
  | symmetricDifference
deriving DecidableEq, Repr

/-- The inside of a class in brackets. Two parts may stand side by side or with an operation between
them. -/
inductive ClassTree where
  | nothing
  | literal (l : Literal)
  | range (first last : Literal)
  | named (k : NamedClass) (negated : Bool)
  | bracketed (negated : Bool) (body : ClassTree)
  | both (a b : ClassTree)
  | combined (op : SetOp) (a b : ClassTree)
deriving DecidableEq, Repr

/-- A written pattern. Flags are set up to the end of the enclosing group, or for a group of their
own. -/
inductive Tree where
  | empty
  | setFlags (fs : FlagSettings)
  | literal (l : Literal)
  | dot
  | assertion (a : Assertion)
  | named (k : NamedClass) (negated : Bool)
  | bracketed (negated : Bool) (body : ClassTree)
  | repeated (least : Nat) (most : Option Nat) (isLazy : Bool) (t : Tree)
  | capture (t : Tree)
  | scoped (fs : FlagSettings) (t : Tree)
  | seq (a b : Tree)
  | alt (a b : Tree)
deriving DecidableEq, Repr

/-! ## Joining parts -/

/-- The concatenation of patterns. -/
def Tree.ofItems : List Tree → Tree
  | [] => .empty
  | [t] => t
  | t :: u :: rest => .seq t (Tree.ofItems (u :: rest))

/-- The alternation of patterns. -/
def Tree.ofBranches : List Tree → Tree
  | [] => .empty
  | [t] => t
  | t :: u :: rest => .alt t (Tree.ofBranches (u :: rest))

/-- The parts of a class that are written side by side. -/
def ClassTree.ofItems : List ClassTree → ClassTree
  | [] => .nothing
  | [t] => t
  | t :: u :: rest => .both t (ClassTree.ofItems (u :: rest))

/-! ## Nesting -/

/-- How deep a class is nested. Parts side by side share one level. -/
def ClassTree.depth : ClassTree → Nat
  | .nothing | .literal _ | .range _ _ | .named _ _ => 0
  | .bracketed _ body => body.depth + 1
  | .both a b => max (a.depth + 1) (match b with | .both _ _ => b.depth | _ => b.depth + 1)
  | .combined _ a b => max a.depth b.depth + 1

/-- How deep a pattern is nested. The parts of one concatenation share a level, and so do the
branches of one alternation. -/
def Tree.depth : Tree → Nat
  | .empty | .setFlags _ | .literal _ | .dot | .assertion _ | .named _ _ => 0
  | .bracketed _ body => body.depth + 1
  | .repeated _ _ _ t | .capture t | .scoped _ t => t.depth + 1
  | .seq a b => max (a.depth + 1) (match b with | .seq _ _ => b.depth | _ => b.depth + 1)
  | .alt a b => max (a.depth + 1) (match b with | .alt _ _ => b.depth | _ => b.depth + 1)

/-- The deepest nesting that a pattern may have. -/
def depthLimit : Nat := 250

end Acceptance.Pattern
