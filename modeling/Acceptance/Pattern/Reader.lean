import Acceptance.Pattern.Tree
import Acceptance.Text.Recent

/-!
# Reading patterns

`Tree.read?` reads the text of a pattern. The reader walks the text once from left to right; what is
still open (groups, classes in brackets) is kept on stacks, so each step looks at one construct
only.

* `skip`, `takeSpaced`, `readCount` read blanks, comments and numbers;
* `readEscape` reads what follows a backslash, `readFlags` and `readName` the heads of groups;
* `ClassState.step` and `State.step` are one step inside and outside of brackets;
* `Tree.read?` runs the steps until the text ends, with nothing left open.

A text that is no pattern has no tree; why it has none is not recorded.
-/

namespace Acceptance.Pattern

open Text

/-! ## Blanks and comments -/

/-- Drops blanks and comments. A comment runs from `#` to the end of its line. -/
def dropFiller : Bool → List Char → List Char
  | _, [] => []
  | inComment, c :: r =>
    if inComment then dropFiller (c != '\n') r
    else if isBlank c then dropFiller false r
    else if c = '#' then dropFiller true r
    else c :: r

/-- Drops blanks and comments if the pattern is verbose here. -/
def skip (verbose : Bool) (s : List Char) : List Char :=
  if verbose then dropFiller false s else s

/-- Takes up to `n` characters with a property. In a verbose pattern blanks and comments may stand
around them. -/
def takeSpaced (verbose : Bool) (p : Char → Bool) : Nat → Bool → List Char → List Char × List Char
  | 0, _, s => ([], s)
  | _, _, [] => ([], [])
  | n + 1, inComment, c :: r =>
    if inComment then takeSpaced verbose p (n + 1) (c != '\n') r
    else if verbose && isBlank c then takeSpaced verbose p (n + 1) false r
    else if verbose && c == '#' then takeSpaced verbose p (n + 1) true r
    else if p c then
      let (taken, rest) := takeSpaced verbose p n false r
      (c :: taken, rest)
    else ([], c :: r)
termination_by structural _ _ s => s

/-- Takes characters with a property as long as there are any. -/
def takeAllSpaced (verbose : Bool) (p : Char → Bool) (s : List Char) : List Char × List Char :=
  takeSpaced verbose p s.length false s

/-! ## Numbers -/

/-- Whether a character is a hexadecimal digit. -/
def isHexDigit (c : Char) : Bool :=
  c.isDigit || ('a' ≤ c && c ≤ 'f') || ('A' ≤ c && c ≤ 'F')

/-- The number that digits write in hexadecimal. -/
def hexValue (ds : List Char) : Nat :=
  ds.foldl (fun n c =>
    n * 16 + (if c.isDigit then c.toNat - 48 else (c.toNat - 55) % 32)) 0

/-- The character with a code point, if there is one. -/
def charOfCode? (n : Nat) : Option Char :=
  if n.isValidChar then some (Char.ofNat n) else none

/-- The least number of repetitions that is too large to be written. -/
def countLimit : Nat := UInt32.size

/-- Reads a decimal number with blanks around it. -/
def readDecimal (verbose : Bool) (s : List Char) : Option (Nat × List Char) :=
  let (ds, rest) := takeAllSpaced verbose Char.isDigit (s.dropWhile isBlank)
  let n := ds.foldl (fun n c => n * 10 + (c.toNat - 48)) 0
  if ds.isEmpty || countLimit ≤ n then none else some (n, rest.dropWhile isBlank)

/-- Reads the counts of a repetition after its opening brace, with the closing one. -/
def readCount (verbose : Bool) (s : List Char) : Option ((Nat × Option Nat) × List Char) := do
  let (least, rest) ← readDecimal verbose (skip verbose s)
  match rest with
  | '}' :: r => some ((least, some least), r)
  | ',' :: r =>
    match skip verbose r with
    | '}' :: r => some ((least, none), r)
    | r =>
      let (most, rest) ← readDecimal verbose r
      match rest with
      | '}' :: r => if least ≤ most then some ((least, some most), r) else none
      | _ => none
  | _ => none

/-! ## Escapes -/

/-- What a backslash or a plain character can stand for. -/
inductive Primitive where
  | literal (l : Literal)
  | assertion (a : Assertion)
  | named (k : NamedClass) (negated : Bool)

/-- Reads the digits of an escape such as `\x41` or `\u{41}`. -/
def readHex (verbose : Bool) (digits : Nat) (s : List Char) : Option (Literal × List Char) :=
  match skip verbose s with
  | '{' :: r =>
    match takeAllSpaced verbose isHexDigit r with
    | (ds, '}' :: rest) =>
      if ds.isEmpty then none
      else (charOfCode? (hexValue ds)).map fun c => (⟨c, false⟩, rest)
    | _ => none
  | r =>
    let (ds, rest) := takeSpaced verbose isHexDigit digits false r
    if ds.length = digits then
      (charOfCode? (hexValue ds)).map fun c => (⟨c, digits == 2⟩, rest)
    else none

/-- Splits a list at the first place where a text stands. -/
def splitAt? (mark : List Char) : List Char → Option (List Char × List Char)
  | [] => none
  | c :: r =>
    if mark.isPrefixOf (c :: r) then some ([], (c :: r).drop mark.length)
    else (splitAt? mark r).map fun (before, after) => (c :: before, after)

/-- The class that a name between braces asks for, and whether it is negated by `!=`. -/
def propertyOfName (name : List Char) : NamedClass × Bool :=
  match splitAt? ['!', '='] name with
  | some (p, v) => (.propertyValue p v, true)
  | none =>
    match splitAt? [':'] name with
    | some (p, v) => (.propertyValue p v, false)
    | none =>
      match splitAt? ['='] name with
      | some (p, v) => (.propertyValue p v, false)
      | none => (.property name, false)

/-- Reads the name of a property after `\p`, or after `\P`, which negates it. -/
def readProperty (verbose negated : Bool) (s : List Char) : Option (Primitive × List Char) :=
  match skip verbose s with
  | '{' :: r =>
    match takeAllSpaced verbose (· != '}') r with
    | (name, '}' :: rest) =>
      let (k, unequal) := propertyOfName name
      some (.named k (negated != unequal), rest)
    | _ => none
  | '\\' :: _ => none
  | c :: r => some (.named (.property [c]) negated, r)
  | [] => none

/-- Whether a character can stand in the name of a word boundary. -/
def isBoundaryChar (c : Char) : Bool :=
  ('a' ≤ c && c ≤ 'z') || ('A' ≤ c && c ≤ 'Z') || c == '-'

/-- The word boundary with a name. -/
def boundaryOfName? (name : List Char) : Option Assertion :=
  match String.ofList name with
  | "start" => some .wordStart
  | "end" => some .wordEnd
  | "start-half" => some .wordStartHalf
  | "end-half" => some .wordEndHalf
  | _ => none

/-- Reads what follows `\b`: the name of a boundary in braces, or nothing. -/
def readBoundary (verbose : Bool) (s : List Char) : Option (Assertion × List Char) :=
  match s with
  | '{' :: r =>
    match takeAllSpaced verbose isBoundaryChar r with
    | ([], []) => none
    | ([], _) => some (.wordBoundary, s)
    | (name, '}' :: rest) => (boundaryOfName? name).map fun a => (a, rest)
    | _ => none
  | _ => some (.wordBoundary, s)

/-- The characters that have a meaning of their own somewhere in a pattern. -/
def metaChars : List Char :=
  ['\\', '.', '+', '*', '?', '(', ')', '|', '[', ']', '\x7b', '\x7d', '^', '$', '#', '&', '-', '~']

/-- Whether a character stands for itself after a backslash: any ASCII character but letters, digits
and angle brackets. -/
def isEscapable (c : Char) : Bool :=
  metaChars.contains c || (c.toNat < 128 && !c.isAlphanum && c != '<' && c != '>')

/-- Reads what follows a backslash. -/
def readEscape (verbose : Bool) : List Char → Option (Primitive × List Char)
  | [] => none
  | c :: r =>
    let plain (d : Char) : Option (Primitive × List Char) := some (.literal ⟨d, false⟩, r)
    let assertion (a : Assertion) : Option (Primitive × List Char) := some (.assertion a, r)
    let named (k : NamedClass) (negated : Bool) : Option (Primitive × List Char) :=
      some (.named k negated, r)
    match c with
    | 'x' => (readHex verbose 2 r).map fun (l, rest) => (.literal l, rest)
    | 'u' => (readHex verbose 4 r).map fun (l, rest) => (.literal l, rest)
    | 'U' => (readHex verbose 8 r).map fun (l, rest) => (.literal l, rest)
    | 'p' => readProperty verbose false r
    | 'P' => readProperty verbose true r
    | 'd' => named .digit false
    | 'D' => named .digit true
    | 's' => named .space false
    | 'S' => named .space true
    | 'w' => named .word false
    | 'W' => named .word true
    | 'a' => plain '\x07'
    | 'f' => plain '\x0c'
    | 't' => plain '\t'
    | 'n' => plain '\n'
    | 'r' => plain '\r'
    | 'v' => plain '\x0b'
    | 'A' => assertion .textStart
    | 'z' => assertion .textEnd
    | 'B' => assertion .noWordBoundary
    | '<' => assertion .wordStart
    | '>' => assertion .wordEnd
    | 'b' => (readBoundary verbose r).map fun (a, rest) => (.assertion a, rest)
    | c => if isEscapable c then plain c else none

/-! ## Classes in brackets -/

/-- An open class in brackets: what stands before the last operation, with that operation, and the
parts since then, the last one first. -/
structure ClassState where
  negated : Bool
  left : Option (SetOp × ClassTree)
  items : List ClassTree

namespace ClassState

/-- The class with one more part. -/
def push (t : ClassTree) (q : ClassState) : ClassState :=
  { q with items := t :: q.items }

/-- What has been read of a class: operations apply from left to right. -/
def body (q : ClassState) : ClassTree :=
  let last := ClassTree.ofItems q.items.reverse
  match q.left with
  | some (op, t) => .combined op t last
  | none => last

/-- The class after an operation. -/
def operate (op : SetOp) (q : ClassState) : ClassState :=
  { q with left := some (op, q.body), items := [] }

end ClassState

/-- Opens a class after its bracket: a `^` negates it, and signs that would end or join parts stand
for themselves here. -/
def openClass (verbose : Bool) (s : List Char) : ClassState × List Char :=
  let s := skip verbose s
  let (negated, s) := match s with
    | '^' :: r => (true, skip verbose r)
    | s => (false, s)
  let (dashes, s) := takeAllSpaced verbose (· == '-') s
  let items := dashes.map fun c => ClassTree.literal ⟨c, false⟩
  match items, s with
  | [], ']' :: r => (⟨negated, none, [.literal ⟨']', false⟩]⟩, r)
  | items, s => (⟨negated, none, items⟩, s)

/-- Reads a class of ASCII characters by its name, after the opening bracket. -/
def readAsciiClass? : List Char → Option (ClassTree × List Char)
  | ':' :: s =>
    let (negated, s) := match s with
      | '^' :: r => (true, r)
      | s => (false, s)
    let name := s.takeWhile (· != ':')
    match s.drop name.length with
    | ':' :: ']' :: rest => (AsciiClass.ofName? name).map fun k => (.named (.ascii k) negated, rest)
    | _ => none
  | _ => none

/-- Reads one character or escape of a class. -/
def readClassPrimitive (verbose : Bool) (c : Char) (r : List Char) :
    Option (Primitive × List Char) :=
  if c = '\\' then readEscape verbose r else some (.literal ⟨c, false⟩, r)

/-- The first character that is neither blank nor the mark of a comment; in a verbose pattern only.
-/
def peekSpaced (verbose : Bool) (s : List Char) : Option Char :=
  if verbose then
    match s.dropWhile isBlank with
    | '#' :: r => (r.dropWhile isBlank).head?
    | r => r.head?
  else s.head?

/-- The part of a class that a character or escape stands for. -/
def Primitive.classTree? : Primitive → Option ClassTree
  | .literal l => some (.literal l)
  | .named k negated => some (.named k negated)
  | .assertion _ => none

/-- Reads a character, an escape or a range of a class. -/
def readClassItem (verbose : Bool) (c : Char) (r : List Char) :
    Option (ClassTree × List Char) := do
  let (first, rest) ← readClassPrimitive verbose c r
  match skip verbose rest with
  | '-' :: after =>
    let next := peekSpaced verbose after
    if next = some ']' || next = some '-' then
      (first.classTree?).map fun t => (t, '-' :: after)
    else
      match skip verbose after with
      | [] => none
      | d :: r =>
        match first, ← readClassPrimitive verbose d r with
        | .literal a, (.literal b, rest) =>
          if a.char ≤ b.char then some (.range a b, rest) else none
        | _, _ => none
  | rest => (first.classTree?).map fun t => (t, rest)

/-- What one step inside brackets leads to: more of the class, or the finished class. -/
inductive ClassProgress where
  | inside (q : ClassState) (enclosing : List ClassState)
  | done (negated : Bool) (body : ClassTree)

/-- One step inside brackets, at the character `c`. -/
def ClassState.step (verbose : Bool) (q : ClassState) (enclosing : List ClassState) (c : Char)
    (r : List Char) : Option (ClassProgress × List Char) :=
  match c, r with
  | '[', r =>
    match readAsciiClass? r with
    | some (t, rest) => some (.inside (q.push t) enclosing, rest)
    | none =>
      let (inner, rest) := openClass verbose r
      some (.inside inner (q :: enclosing), rest)
  | ']', r =>
    match enclosing with
    | [] => some (.done q.negated q.body, r)
    | outer :: enclosing => some (.inside (outer.push (.bracketed q.negated q.body)) enclosing, r)
  | '&', '&' :: r => some (.inside (q.operate .intersection) enclosing, r)
  | '-', '-' :: r => some (.inside (q.operate .difference) enclosing, r)
  | '~', '~' :: r => some (.inside (q.operate .symmetricDifference) enclosing, r)
  | c, r => (readClassItem verbose c r).map fun (t, rest) => (.inside (q.push t) enclosing, rest)

/-- Steps inside brackets until the outermost class is closed. -/
def readClassFrom (verbose : Bool) :
    Nat → ClassState → List ClassState → List Char → Option (Tree × List Char)
  | 0, _, _, _ => none
  | n + 1, q, enclosing, s =>
    match skip verbose s with
    | [] => none
    | c :: r =>
      match q.step verbose enclosing c r with
      | some (.inside q enclosing, rest) => readClassFrom verbose n q enclosing rest
      | some (.done negated body, rest) => some (.bracketed negated body, rest)
      | none => none

/-- Reads a class after its opening bracket. -/
def readClass (verbose : Bool) (s : List Char) : Option (Tree × List Char) :=
  let (q, rest) := openClass verbose s
  readClassFrom verbose (rest.length + 1) q [] rest

/-! ## Groups -/

/-- How a group with flags goes on: it ends at once, or a pattern follows. -/
inductive FlagsEnd where
  | closed
  | opened
deriving DecidableEq

/-- Reads flags up to a colon or a closing parenthesis. A flag is set once, one minus sign unsets
the flags after it, and at least one flag follows the sign. -/
def readFlags (value dangling : Bool) (found : FlagSettings) :
    List Char → Option ((FlagSettings × FlagsEnd) × List Char)
  | [] => none
  | ':' :: r => if dangling then none else some ((found.reverse, .opened), r)
  | ')' :: r => if dangling then none else some ((found.reverse, .closed), r)
  | '-' :: r => if value then readFlags false true found r else none
  | c :: r =>
    match Flag.ofLetter? c with
    | some f =>
      if (found.lookup f).isSome then none else readFlags value false ((f, value) :: found) r
    | none => none

/-- Whether a character can start the name of a group. -/
def isNameStart (c : Char) : Bool :=
  c == '_' || isAlphabetic c

/-- Whether a character can stand inside the name of a group. -/
def isNameChar (c : Char) : Bool :=
  ['_', '.', '[', ']'].contains c || isAlphanumeric c

/-- Reads the name of a group up to its closing angle bracket. -/
def readName (s : List Char) : Option (List Char × List Char) :=
  match s.takeWhile (· != '>') with
  | [] => none
  | c :: name =>
    match s.drop (name.length + 1) with
    | '>' :: rest => if isNameStart c && name.all isNameChar then some (c :: name, rest) else none
    | _ => none

/-- How the flags of a group change a flag. -/
def FlagSettings.value (fs : FlagSettings) (f : Flag) (current : Bool) : Bool :=
  (fs.lookup f).getD current

/-! ## The reader -/

/-- The kind of an open group. -/
inductive Scope where
  | capture
  | flags (fs : FlagSettings)

/-- What a group makes of its body. -/
def Scope.close : Scope → Tree → Tree
  | .capture, t => .capture t
  | .flags fs, t => .scoped fs t

/-- An open group: its kind, and what was read around it before it was opened, the last branch and
the last part first. -/
structure Level where
  scope : Scope
  verbose : Bool
  branches : List Tree
  items : List Tree

/-- The state of the reader: the names of groups so far, the open groups, the innermost first, and
the finished branches of the innermost one and the parts of its current branch, the last one first.
-/
structure State where
  verbose : Bool
  names : List (List Char)
  levels : List Level
  branches : List Tree
  items : List Tree

namespace State

/-- Nothing has been read. -/
def start : State := ⟨false, [], [], [], []⟩

/-- The state with one more part. -/
def push (t : Tree) (st : State) : State :=
  { st with items := t :: st.items }

/-- What has been read since the innermost group was opened. -/
def body (st : State) : Tree :=
  .ofBranches (Tree.ofItems st.items.reverse :: st.branches).reverse

/-- Ends a branch. -/
def endBranch (st : State) : State :=
  { st with branches := Tree.ofItems st.items.reverse :: st.branches, items := [] }

/-- Opens a group. -/
def openGroup (scope : Scope) (verbose : Bool) (st : State) : State :=
  { st with
    verbose, levels := ⟨scope, st.verbose, st.branches, st.items⟩ :: st.levels
    branches := [], items := [] }

/-- Closes the innermost group, if there is one. -/
def closeGroup? (st : State) : Option State :=
  match st.levels with
  | [] => none
  | l :: levels =>
    some { st with
      verbose := l.verbose, levels, branches := l.branches
      items := l.scope.close st.body :: l.items }

/-- Repeats the last part, lazily if a question mark comes next. There must be a last part, and it
must not be a setting of flags. -/
def repeatLast? (least : Nat) (most : Option Nat) (st : State) (s : List Char) :
    Option (State × List Char) :=
  let (isLazy, rest) := match s with
    | '?' :: r => (true, r)
    | s => (false, s)
  match st.items with
  | [] | .setFlags _ :: _ | .empty :: _ => none
  | t :: items => some ({ st with items := .repeated least most isLazy t :: items }, rest)

/-- Opens a group, or sets flags, after an opening parenthesis. -/
def readGroup (st : State) (s : List Char) : Option (State × List Char) :=
  let named (r : List Char) : Option (State × List Char) := do
    let (name, rest) ← readName r
    if st.names.contains name then none
    else some ({ st with names := name :: st.names }.openGroup .capture st.verbose, rest)
  match skip st.verbose s with
  | '?' :: 'P' :: '<' :: r => named r
  | '?' :: '<' :: r => named r
  | '?' :: r => do
    let ((fs, ending), rest) ← readFlags true false [] r
    let verbose := fs.value .verbose st.verbose
    match ending with
    | .opened => some (st.openGroup (.flags fs) verbose, rest)
    | .closed =>
      if fs.isEmpty then none else some ({ st with verbose }.push (.setFlags fs), rest)
  | r => some (st.openGroup .capture st.verbose, r)

/-- One step outside of brackets, at the character `c`. -/
def step (st : State) (c : Char) (r : List Char) : Option (State × List Char) :=
  match c with
  | '(' => st.readGroup r
  | ')' => st.closeGroup?.map fun st => (st, r)
  | '|' => some (st.endBranch, r)
  | '[' => (readClass st.verbose r).map fun (t, rest) => (st.push t, rest)
  | '?' => st.repeatLast? 0 (some 1) r
  | '*' => st.repeatLast? 0 none r
  | '+' => st.repeatLast? 1 none r
  | '\x7b' => do
    let ((least, most), rest) ← readCount st.verbose r
    st.repeatLast? least most (skip st.verbose rest)
  | '\\' => do
    match ← readEscape st.verbose r with
    | (.literal l, rest) => some (st.push (.literal l), rest)
    | (.assertion a, rest) => some (st.push (.assertion a), rest)
    | (.named k negated, rest) => some (st.push (.named k negated), rest)
  | '.' => some (st.push .dot, r)
  | '^' => some (st.push (.assertion .lineStart), r)
  | '$' => some (st.push (.assertion .lineEnd), r)
  | c => some (st.push (.literal ⟨c, false⟩), r)

/-- What has been read when the text is over: all groups must be closed. -/
def finish? (st : State) : Option Tree :=
  if st.levels.isEmpty then some st.body else none

/-- Runs at most `n` steps, to the end of the text. -/
def run : Nat → State → List Char → Option Tree
  | 0, _, _ => none
  | n + 1, st, s =>
    match skip st.verbose s with
    | [] => st.finish?
    | c :: r =>
      match st.step c r with
      | some (st, rest) => run n st rest
      | none => none

end State

/-- Reads a pattern. Each step takes a character at least, so the length of the text bounds their
number. -/
def Tree.read? (s : List Char) : Option Tree :=
  State.start.run (s.length + 1) s

end Acceptance.Pattern
