/-!
# Shortest decimals

A binary floating-point number stands for all reals that round to it. It is written with the fewest
decimal digits that lie among these reals; of two such decimals the nearer one is taken, and the
upper one if both are as near.

* `Interval` is a number with the reals that round to it, as fractions with one denominator.
* `Interval.shortest` finds the digits, `Interval.atGrid?` looks at the decimals with one more
  digit.
* `Format` describes a binary format, `Format.decode` reads the bits of a number.
* `Number.text` writes a number without an exponent.
-/

namespace Acceptance.Decimal

/-- A positive number and the ends of the interval of reals that round to it, all over one
denominator. In a closed interval the ends round to it too. -/
structure Interval where
  middle : Nat
  low : Nat
  high : Nat
  denominator : Nat
  closed : Bool
deriving Repr

/-- Decimal digits, as a number, and the power of ten by which it is multiplied. -/
structure Digits where
  value : Nat
  exponent : Int
deriving DecidableEq, Repr

namespace Interval

/-- The factor for numerators and the factor for denominators that make a power of ten the unit. -/
def unitFactors (exponent : Int) : Nat × Nat :=
  if 0 ≤ exponent then (1, Nat.pow 10 exponent.toNat) else (Nat.pow 10 (-exponent).toNat, 1)

/-- Whether a multiple of a power of ten rounds to the number. -/
def holds (v : Interval) (exponent : Int) (n : Nat) : Bool :=
  let (up, down) := unitFactors exponent
  let x := n * (v.denominator * down)
  if v.closed then v.low * up ≤ x && x ≤ v.high * up else v.low * up < x && x < v.high * up

/-- The multiple of a power of ten that rounds to the number and is nearest to it, if one of its two
neighbours does. -/
def atGrid? (v : Interval) (exponent : Int) : Option Nat :=
  let (up, down) := unitFactors exponent
  let below := v.middle * up / (v.denominator * down)
  let rest := v.middle * up % (v.denominator * down)
  match v.holds exponent below, v.holds exponent (below + 1) with
  | true, true => some (if 2 * rest < v.denominator * down then below else below + 1)
  | true, false => some below
  | false, true => some (below + 1)
  | false, false => none

/-- The number of decimal digits before the point; for a number below one, minus the number of zeros
after the point. -/
def magnitude (v : Interval) : Int :=
  if v.denominator ≤ v.middle then (Nat.toDigits 10 (v.middle / v.denominator)).length
  else
    let zeros := (List.range 400).find? fun k => v.denominator ≤ v.middle * Nat.pow 10 (k + 1)
    0 - (zeros.getD 400 : Nat)

/-- The first decimal found with at most `n` digits, from `count` digits on. -/
def search (v : Interval) : Nat → Nat → Digits
  | 0, _ => ⟨v.middle, 0⟩
  | n + 1, count =>
    let exponent := v.magnitude - count
    match v.atGrid? exponent with
    | some n => ⟨n, exponent⟩
    | none => v.search n (count + 1)

/-- The shortest decimal that rounds to the number. Seventeen digits are enough for every number of
the formats below. -/
def shortest (v : Interval) : Digits :=
  v.search 20 1

end Interval

/-! ## Binary formats -/

/-- A binary format: the widths of its two fields. -/
structure Format where
  fractionBits : Nat
  exponentBits : Nat
deriving DecidableEq, Repr

/-- Numbers of 32 bits. -/
def Format.single : Format := ⟨23, 8⟩

/-- Numbers of 64 bits. -/
def Format.double : Format := ⟨52, 11⟩

/-- A floating-point number. -/
inductive Number where
  | nan
  | infinite (negative : Bool)
  | zero (negative : Bool)
  | finite (negative : Bool) (value : Interval)
deriving Repr

/-- The number with some bits. Its neighbours are one unit away, but below a power of two the next
number is only half as far. The ends of the interval belong to it when the last bit is zero. -/
def Format.decode (f : Format) (bits : Nat) : Number :=
  let fraction := bits % (1 <<< f.fractionBits)
  let exponent := (bits >>> f.fractionBits) % (1 <<< f.exponentBits)
  let negative := bits.testBit (f.fractionBits + f.exponentBits)
  if exponent = (1 <<< f.exponentBits) - 1 then (if fraction = 0 then .infinite negative else .nan)
  else if exponent = 0 ∧ fraction = 0 then .zero negative
  else
    let mantissa := if exponent = 0 then fraction else fraction + (1 <<< f.fractionBits)
    let narrow := fraction = 0 ∧ 1 < exponent
    let bias := (1 <<< (f.exponentBits - 1)) - 1 + f.fractionBits
    -- quarters of the unit, whose exponent is `max exponent 1 - bias`
    let scale := 1 <<< max exponent 1
    .finite negative
      { middle := 4 * mantissa * scale
        low := (4 * mantissa - (if narrow then 1 else 2)) * scale
        high := (4 * mantissa + 2) * scale
        denominator := 4 <<< bias
        closed := mantissa % 2 = 0 }

/-! ## Text -/

/-- A decimal without the zeros at its end; at most `n` are dropped. -/
def dropZeros : Nat → Digits → Digits
  | 0, d => d
  | n + 1, d =>
    if d.value % 10 = 0 && 0 < d.value then dropZeros n ⟨d.value / 10, d.exponent + 1⟩ else d

/-- A decimal in positional notation. -/
def Digits.text (d : Digits) : String :=
  let d := dropZeros (Nat.toDigits 10 d.value).length d
  let ds := Nat.toDigits 10 d.value
  if 0 ≤ d.exponent then String.ofList (ds ++ List.replicate d.exponent.toNat '0')
  else
    let places := (-d.exponent).toNat
    if places < ds.length then
      String.ofList (ds.take (ds.length - places) ++ '.' :: ds.drop (ds.length - places))
    else String.ofList ('0' :: '.' :: (List.replicate (places - ds.length) '0' ++ ds))

/-- The sign of a number, written only if it is negative. -/
def signText (negative : Bool) : String := if negative then "-" else ""

/-- The text of a number. -/
def Number.text : Number → String
  | .nan => "NaN"
  | .infinite negative => signText negative ++ "inf"
  | .zero negative => signText negative ++ "0"
  | .finite negative v => signText negative ++ v.shortest.text

end Acceptance.Decimal
