import Acceptance.Text.CharSet

/-!
# Characters as bytes

How characters and ranges of characters look in UTF-8.

* `utf8Bytes` are the bytes of a text.
* `utf8Spans` cuts a range of code points into products of byte ranges, `CharSet.utf8Spans` a set.
-/

namespace Acceptance

namespace Text

/-- The bytes of a text. -/
def utf8Bytes (s : List Char) : List Nat :=
  s.flatMap fun c => (String.utf8EncodeChar c).map UInt8.toNat

/-- A closed range of bytes. -/
abbrev ByteSpan := Nat × Nat

/-- The products of byte ranges that make up the code points from `lo` to `hi`, all of which are
written with `k` continuation bytes after a first byte that is at least `lead`. A product is the
list of its ranges, and the products come in increasing order. -/
def spansOfLength (lead : Nat) : Nat → Nat → Nat → List (List ByteSpan)
  | 0, lo, hi => [[(lead + lo, lead + hi)]]
  | k + 1, lo, hi =>
    let block := 1 <<< (6 * (k + 1))
    let first := lo / block
    let last := hi / block
    let under (n : Nat) (spans : List (List ByteSpan)) : List (List ByteSpan) :=
      spans.map fun s => (lead + n, lead + n) :: s
    if first = last then under first (spansOfLength 0x80 k (lo % block) (hi % block))
    else
      let head := if lo % block = 0 then []
        else under first (spansOfLength 0x80 k (lo % block) (block - 1))
      let tail := if hi % block = block - 1 then []
        else under last (spansOfLength 0x80 k 0 (hi % block))
      let least := if lo % block = 0 then first else first + 1
      let upto := if hi % block = block - 1 then last + 1 else last
      let middle := if least < upto
        then [(lead + least, lead + upto - 1) :: List.replicate (k + 1) (0x80, 0xBF)] else []
      head ++ middle ++ tail

/-- The ranges of code points that UTF-8 writes with the same number of bytes: first, last, least
first byte and number of continuation bytes. -/
def utf8Lengths : List (Nat × Nat × Nat × Nat) :=
  [(0, 0x7F, 0, 0), (0x80, 0x7FF, 0xC0, 1), (0x800, 0xD7FF, 0xE0, 2), (0xE000, 0xFFFF, 0xE0, 2),
    (0x10000, 0x10FFFF, 0xF0, 3)]

/-- The products of byte ranges of a range of code points, in increasing order. -/
def utf8Spans (r : Nat × Nat) : List (List ByteSpan) :=
  utf8Lengths.flatMap fun (lo, hi, lead, k) =>
    let first := max r.1 lo
    let last := min r.2 hi
    if first ≤ last then spansOfLength lead k first last else []

end Text

namespace CharSet

open Text

/-- The products of byte ranges of a set in normal form. -/
def utf8Spans (s : CharSet) : List (List ByteSpan) := s.ranges.flatMap Text.utf8Spans

end CharSet

end Acceptance
