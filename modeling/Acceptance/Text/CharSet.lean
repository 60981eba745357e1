/-!
# Sets of characters

A set of characters is kept as a list of closed ranges of code points.

* `CharSet.contains` is membership; `CharSet.contains_ofRanges` and `CharSet.contains_single`
  describe it for sets that are written down.
* `compl`, `inter`, `diff` and `symmDiff` work on the normal form of a set: ranges in increasing
  order with a gap between neighbours (`CharSet.normalize`).
* `CharSet.ofLines` reads the notation of the property tables of this library: ranges such as
  `41-5A` and single code points in hexadecimal, and `100~12E` for every second code point from the
  first to the last.
* `SetTable.named?` looks a set up by its name.
-/

namespace Acceptance

/-- A set of characters: the code points of a list of closed ranges. -/
structure CharSet where
  ranges : List (Nat × Nat)
deriving Repr, DecidableEq

namespace CharSet

/-- The last code point. -/
def lastCode : Nat := 0x10FFFF

/-- The set of the code points of some ranges. -/
def ofRanges (rs : List (Nat × Nat)) : CharSet := ⟨rs⟩

/-- The empty set. -/
def empty : CharSet := ⟨[]⟩

/-- All code points. -/
def full : CharSet := ⟨[(0, lastCode)]⟩

/-- The set of one character. -/
def single (c : Char) : CharSet := ⟨[(c.toNat, c.toNat)]⟩

/-- Whether a code point is in the set. -/
def containsCode (s : CharSet) (n : Nat) : Bool :=
  s.ranges.any fun r => r.1 ≤ n && n ≤ r.2

/-- Whether a character is in the set. -/
def contains (s : CharSet) (c : Char) : Bool :=
  s.containsCode c.toNat

/-- Ranges in increasing order, joined where they touch or overlap. -/
def joinRanges : List (Nat × Nat) → List (Nat × Nat)
  | [] => []
  | [r] => [r]
  | r :: q :: rest =>
    if q.1 ≤ r.2 + 1 then joinRanges ((r.1, max r.2 q.2) :: rest) else r :: joinRanges (q :: rest)
termination_by rs => rs.length

/-- The normal form of a set: increasing ranges, none touching the next. -/
def normalize (s : CharSet) : CharSet :=
  ⟨joinRanges ((s.ranges.filter fun r => r.1 ≤ r.2).mergeSort fun r q => r.1 ≤ q.1)⟩

/-- The union of two sets. -/
def union (s t : CharSet) : CharSet := ⟨s.ranges ++ t.ranges⟩

/-- The gaps between increasing ranges, from code point `n` on. -/
def gaps (n : Nat) : List (Nat × Nat) → List (Nat × Nat)
  | [] => if n ≤ lastCode then [(n, lastCode)] else []
  | r :: rest => if n < r.1 then (n, r.1 - 1) :: gaps (r.2 + 1) rest else gaps (r.2 + 1) rest

/-- The code points outside a set. -/
def compl (s : CharSet) : CharSet := ⟨gaps 0 s.normalize.ranges⟩

/-- The code points in both sets. -/
def inter (s t : CharSet) : CharSet := (s.compl.union t.compl).compl

/-- The code points of the first set that are not in the second. -/
def diff (s t : CharSet) : CharSet := (s.compl.union t).compl

/-- The code points in exactly one of two sets. -/
def symmDiff (s t : CharSet) : CharSet := (s.diff t).union (t.diff s)

/-- The union of a list of sets. -/
def unions (ss : List CharSet) : CharSet := ⟨ss.flatMap ranges⟩

/-- Whether every code point of the set is below 128. -/
def isAscii (s : CharSet) : Bool :=
  s.ranges.all fun r => r.2 < 128 || r.2 < r.1

/-- The code points that are no characters. -/
def surrogates : CharSet := ⟨[(0xD800, 0xDFFF)]⟩

/-- The characters of a set in normal form: no range holds code points that are no characters. -/
def scalars (s : CharSet) : CharSet := s.diff surrogates

/-! ## Reading tables -/

/-- The number a text writes in hexadecimal; characters that are no digits count as zero. -/
def hexNumber (s : List Char) : Nat :=
  s.foldl (fun n c =>
    n * 16 + (if c.isDigit then c.toNat - 48 else if c.isUpper then c.toNat - 55 else 0)) 0

/-- The ranges of one entry of a table. -/
def entryRanges (s : List Char) : List (Nat × Nat) :=
  let head := s.takeWhile fun c => c != '-' && c != '~'
  let first := hexNumber head
  match s.drop head.length with
  | '-' :: last => [(first, hexNumber last)]
  | '~' :: last =>
    (List.range ((hexNumber last - first) / 2 + 1)).map fun i => (first + 2 * i, first + 2 * i)
  | _ => [(first, first)]

/-- The set of a table: lines of entries, which are separated by spaces. -/
def ofLines (lines : List String) : CharSet :=
  ⟨lines.flatMap fun line => (line.splitOn " ").flatMap fun entry => entryRanges entry.toList⟩

/-! ## Membership -/

theorem contains_ofRanges (rs : List (Nat × Nat)) (c : Char) :
    (ofRanges rs).contains c = rs.any fun r => r.1 ≤ c.toNat && c.toNat ≤ r.2 := rfl

@[simp] theorem contains_single (a c : Char) : (single a).contains c = decide (c = a) := by
  simp only [contains, containsCode, single, List.any_cons, List.any_nil, Bool.or_false,
    Bool.and_eq_decide, decide_eq_true_eq, decide_eq_decide]
  constructor
  · intro h
    exact Char.ext (UInt32.toNat_inj.1 (by simp only [Char.toNat] at h; omega))
  · rintro rfl
    simp

end CharSet

/-! ## Sets with names -/

/-- Sets under their names. A set is computed when it is asked for. -/
abbrev SetTable := List (List String × (Unit → CharSet))

/-- The set under a name. -/
def SetTable.named? (sets : SetTable) (name : String) : Option CharSet :=
  (sets.find? fun entry => entry.1.contains name).map fun entry => entry.2 ()

end Acceptance
