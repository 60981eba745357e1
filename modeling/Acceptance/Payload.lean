import Acceptance.Decimal.Shortest

/-!
# Payloads of broken-off steps

A step that breaks off leaves a value behind. Texts and numbers are shown as they are; of any other
value only its type is known.
-/

namespace Acceptance

/-- What a step that broke off left behind. Floating-point numbers are given by their bits, and of a
value that cannot be shown there is the name of its type. -/
inductive Payload where
  | text (s : String)
  | integer (n : Int)
  | single (bits : Nat)
  | double (bits : Nat)
  | hidden (typeName : String)
deriving DecidableEq, Repr

/-- The message of a payload. -/
def Payload.message : Payload → String
  | .text s => s
  | .integer n => toString n
  | .single bits => (Decimal.Format.single.decode bits).text
  | .double bits => (Decimal.Format.double.decode bits).text
  | .hidden typeName => s!"opaque panic payload (TypeId({typeName}))"

end Acceptance
