import Acceptance.Pattern.Expr
import Acceptance.Pattern.Tree
import Acceptance.Text.Age
import Acceptance.Text.Boundary
import Acceptance.Text.Fold

/-!
# The meaning of patterns

Flags and names are given their meaning here: a written pattern becomes a regular expression over
classes of characters and conditions on positions.

* `Flags` are the flags in force, `Look` the conditions on positions.
* `NamedClass.set?` and `ClassTree.set?` are the sets that classes stand for, `CharClass` is such a
  set with the kind of its members.
* `Tree.meaning?` is the expression of a pattern. Patterns that could match a part of a character
  have none: without the flag `u`, classes hold ASCII characters only and the dot is no pattern.
-/

namespace Acceptance.Pattern

open Text

/-- The flags that change what a pattern means. -/
structure Flags where
  ignoreCase : Bool := false
  multiLine : Bool := false
  dotAll : Bool := false
  swapGreed : Bool := false
  crlf : Bool := false
  unicode : Bool := true
deriving DecidableEq, Repr

/-- The flags after some settings. -/
def Flags.set (fs : FlagSettings) (f : Flags) : Flags :=
  fs.foldl (fun f s =>
    match s.1 with
    | .ignoreCase => { f with ignoreCase := s.2 }
    | .multiLine => { f with multiLine := s.2 }
    | .dotAll => { f with dotAll := s.2 }
    | .crlf => { f with crlf := s.2 }
    | .unicode => { f with unicode := s.2 }
    | .swapGreed => { f with swapGreed := s.2 }
    | .verbose => f) f

/-! ## Conditions on positions -/

/-- The conditions that a pattern can put on a position. `wide` asks for Unicode word characters,
and at `crlfStart` and `crlfStop` a carriage return may end a line too. -/
inductive Look where
  | start
  | stop
  | lineStart
  | lineStop
  | crlfStart
  | crlfStop
  | boundary (wide : Bool)
  | noBoundary (wide : Bool)
  | wordStart (wide : Bool)
  | wordStop (wide : Bool)
  | noWordBefore (wide : Bool)
  | noWordAfter (wide : Bool)
deriving DecidableEq, Repr

/-- The ASCII word characters. -/
def asciiWord : CharSet := CharSet.ofRanges [(48, 57), (65, 90), (95, 95), (97, 122)]

/-- What stands on one side of a position: the character, if there is one, and whether it is a word
character. -/
structure Side where
  char : Option Char
  isWord : Bool
  isAsciiWord : Bool
deriving DecidableEq, Repr

namespace Side

/-- The side of a position where a character stands, or none. -/
def of (c : Option Char) : Side := ⟨c, c.any Text.word.contains, c.any asciiWord.contains⟩

/-- Whether nothing stands there. -/
def isEdge (s : Side) : Bool := s.char.isNone

/-- Whether a character stands there. -/
def has (c : Char) (s : Side) : Bool := s.char == some c

/-- Whether a word character stands there; `wide` asks for Unicode word characters. -/
def hasWord (wide : Bool) (s : Side) : Bool := if wide then s.isWord else s.isAsciiWord

end Side

/-- Whether a position passes a condition, by what stands before and after it. -/
def Look.holds (before after : Side) : Look → Bool
  | .start => before.isEdge
  | .stop => after.isEdge
  | .lineStart => before.isEdge || before.has '\n'
  | .lineStop => after.isEdge || after.has '\n'
  | .crlfStart => before.isEdge || before.has '\n' || (before.has '\r' && !after.has '\n')
  | .crlfStop => after.isEdge || after.has '\r' || (after.has '\n' && !before.has '\r')
  | .boundary wide => before.hasWord wide != after.hasWord wide
  | .noBoundary wide => before.hasWord wide == after.hasWord wide
  | .wordStart wide => !before.hasWord wide && after.hasWord wide
  | .wordStop wide => before.hasWord wide && !after.hasWord wide
  | .noWordBefore wide => !before.hasWord wide
  | .noWordAfter wide => !after.hasWord wide

/-- The condition of an assertion under some flags. -/
def Assertion.look (f : Flags) : Assertion → Look
  | .lineStart => if f.multiLine then (if f.crlf then .crlfStart else .lineStart) else .start
  | .lineEnd => if f.multiLine then (if f.crlf then .crlfStop else .lineStop) else .stop
  | .textStart => .start
  | .textEnd => .stop
  | .wordBoundary => .boundary f.unicode
  | .noWordBoundary => .noBoundary f.unicode
  | .wordStart => .wordStart f.unicode
  | .wordEnd => .wordStop f.unicode
  | .wordStartHalf => .noWordBefore f.unicode
  | .wordEndHalf => .noWordAfter f.unicode

/-! ## Classes -/

/-- A class of characters. The members of a class are characters, or bytes if the flag `u` is off;
two classes with the same members of different kinds are not the same class. -/
structure CharClass where
  set : CharSet
  ofBytes : Bool
deriving DecidableEq, Repr

/-- The class of a set under some flags. -/
def CharClass.under (f : Flags) (s : CharSet) : CharClass := ⟨s, !f.unicode⟩

/-- The characters of an ASCII class. -/
def AsciiClass.ranges : AsciiClass → List (Nat × Nat)
  | .alnum => [(48, 57), (65, 90), (97, 122)]
  | .alpha => [(65, 90), (97, 122)]
  | .ascii => [(0, 127)]
  | .blank => [(9, 9), (32, 32)]
  | .cntrl => [(0, 31), (127, 127)]
  | .digit => [(48, 57)]
  | .graph => [(33, 126)]
  | .lower => [(97, 122)]
  | .print => [(32, 126)]
  | .punct => [(33, 47), (58, 64), (91, 96), (123, 126)]
  | .space => [(9, 13), (32, 32)]
  | .upper => [(65, 90)]
  | .word => [(48, 57), (65, 90), (95, 95), (97, 122)]
  | .xdigit => [(48, 57), (65, 70), (97, 102)]

/-- Decimal digits. -/
def digits : CharSet := Category.decimalNumber.set

/-- A name without spaces, underscores and hyphens, in lower case, and without the word `is` before
it; characters outside of ASCII are dropped. The name `isc` is kept as it is. -/
def normalName (name : List Char) : String :=
  let strip (s : List Char) : List Char :=
    (s.filter fun c => !([' ', '_', '-'].contains c) && c.toNat < 128).map Char.toLower
  match name with
  | i :: s :: rest =>
    if (i == 'i' || i == 'I') && (s == 's' || s == 'S') then
      let short := strip rest
      String.ofList (if short = ['c'] then ['i', 's', 'c'] else short)
    else String.ofList (strip name)
  | _ => String.ofList (strip name)

/-- The set of a property, a general category or a script, looked up in this order. -/
def propertySet? (name : List Char) : Option CharSet :=
  let name := normalName name
  (Property.named? name).orElse fun _ =>
    (Category.named? name).orElse fun _ => (Script.named? name).map Script.set

/-- The characters with a general category, a script, a script extension, an age or a class at
boundaries. -/
def propertyValueSet? (name value : List Char) : Option CharSet :=
  let value := normalName value
  match normalName name with
  | "gc" | "generalcategory" => Category.named? value
  | "sc" | "script" => (Script.named? value).map Script.set
  | "scx" | "scriptextensions" => (Script.named? value).map Script.extendedSet
  | "age" => Age.upTo? value
  | "gcb" | "graphemeclusterbreak" => GraphemeBreak.classes.named? value
  | "wb" | "wordbreak" => WordBreak.classes.named? value
  | "sb" | "sentencebreak" => SentenceBreak.classes.named? value
  | _ => none

/-- A set closed under differences of case if the flags ask for it, and negated if `negated` says
so. Without the flag `u` there is no negation, for it would hold parts of characters. -/
def closeAndNegate? (f : Flags) (negated : Bool) (s : CharSet) : Option CharSet :=
  if f.unicode then
    let s := if f.ignoreCase then s.caseClosure else s
    some (if negated then s.compl else s)
  else if negated then none
  else some (if f.ignoreCase then s.asciiCaseClosure else s)

/-- The set of a class with a name. -/
def NamedClass.set? (f : Flags) (negated : Bool) : NamedClass → Option CharSet
  | .ascii k => closeAndNegate? f negated (CharSet.ofRanges k.ranges)
  | .property name => do
    let s ← propertySet? name
    if f.unicode then closeAndNegate? f negated s else none
  | .propertyValue name value => do
    let s ← propertyValueSet? name value
    if f.unicode then closeAndNegate? f negated s else none
  | k =>
    let s := match k with
      | .digit => if f.unicode then digits else CharSet.ofRanges AsciiClass.digit.ranges
      | .space => if f.unicode then blank else CharSet.ofRanges AsciiClass.space.ranges
      | _ => if f.unicode then Text.word else asciiWord
    if negated then (if f.unicode then some s.compl else none) else some s

/-- The code point of a character in a class. Without the flag `u` it must be an ASCII character. -/
def Literal.classCode? (f : Flags) (l : Literal) : Option Nat :=
  if f.unicode || l.char.toNat < 128 then some l.char.toNat else none

/-- The set of an operation on two sets. -/
def SetOp.apply : SetOp → CharSet → CharSet → CharSet
  | .intersection, s, t => s.inter t
  | .difference, s, t => s.diff t
  | .symmetricDifference, s, t => s.symmDiff t

/-- The set of the inside of a class in brackets. -/
def ClassTree.set? (f : Flags) : ClassTree → Option CharSet
  | .nothing => some CharSet.empty
  | .literal l => (l.classCode? f).map fun n => CharSet.ofRanges [(n, n)]
  | .range a b => do some (CharSet.ofRanges [(← a.classCode? f, ← b.classCode? f)])
  | .named k negated => k.set? f negated
  | .bracketed negated body => do closeAndNegate? f negated (← body.set? f)
  | .both a b => do some ((← a.set? f).union (← b.set? f))
  | .combined op a b => do
    let s ← closeAndNegate? f false (← a.set? f)
    let t ← closeAndNegate? f false (← b.set? f)
    some (op.apply s t)

/-! ## Patterns -/

/-- The set of the characters that a plain character stands for. Without the flag `u` a byte outside
of ASCII is no character. -/
def Literal.set? (f : Flags) (l : Literal) : Option CharSet :=
  let s := CharSet.single l.char
  if f.unicode then some (if f.ignoreCase then s.caseClosure else s)
  else if l.isByte && 128 ≤ l.char.toNat then none
  else some (if f.ignoreCase then s.asciiCaseClosure else s)

/-- The set of the characters that the dot stands for. -/
def dotSet? (f : Flags) : Option CharSet :=
  if !f.unicode then none
  else if f.dotAll then some CharSet.full
  else if f.crlf then some (CharSet.ofRanges [(10, 10), (13, 13)]).compl
  else some (CharSet.ofRanges [(10, 10)]).compl

/-- The expression of a pattern under some flags, with the flags in force after it. Flags that a
pattern sets last to the end of the enclosing group. -/
def Tree.meaning? : Tree → Flags → Option (Expr CharClass Look × Flags)
  | .empty, f => some (.empty, f)
  | .setFlags fs, f => some (.empty, f.set fs)
  | .literal l, f => (l.set? f).map fun s => (.one (.under f s), f)
  | .dot, f => (dotSet? f).map fun s => (.one (.under f s), f)
  | .assertion a, f => some (.look (a.look f), f)
  | .named k negated, f => (k.set? f negated).map fun s => (.one (.under f s), f)
  | .bracketed negated body, f => do
    let s ← closeAndNegate? f negated (← body.set? f)
    some (.one (.under f s), f)
  | .repeated least most isLazy t, f =>
    (t.meaning? f).map fun (e, f) => (.times least most (isLazy != f.swapGreed) e, f)
  | .capture t, f => (t.meaning? f).map fun (e, _) => (.group true e, f)
  | .scoped fs t, f => (t.meaning? (f.set fs)).map fun (e, _) => (.group false e, f)
  | .seq a b, f => do
    let (a, f) ← a.meaning? f
    let (b, f) ← b.meaning? f
    some (.seq a b, f)
  | .alt a b, f => do
    let (a, f) ← a.meaning? f
    let (b, f) ← b.meaning? f
    some (.alt a b, f)

end Acceptance.Pattern
