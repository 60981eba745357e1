import Acceptance.Logged
import Acceptance.Text.Quoted

/-!
# Settings

One setting says whether skipped scenarios make a run fail. It is overridden for the whole process
or taken from a variable of the environment.

* `Override` is the cell of the override; `Override.value?` reads it, `Override.value?_eq_some_iff`
  says from which bytes, and `Override.value?_ofOption` that what is kept in it is read.
* `readFlag?` reads the value of the variable.
* `Settings.overrideWith`, `clearOverride` and `withEnvironment` change what the setting depends on.
* `Settings.failOnSkipped` is the setting in force; it logs a warning when it has to ignore the
  variable.
-/

namespace Acceptance

/-- The name of the variable. -/
def variableName : String := "STEPBIND_FAIL_ON_SKIPPED"

/-! ## The override -/

/-- The cell in which the process keeps an override, a byte. -/
structure Override where
  byte : UInt8
deriving DecidableEq, Repr

namespace Override

/-- The cell while nothing is overridden. -/
def unset : Override := ⟨0⟩

/-- The cell while the setting is overridden with `false`. -/
def off : Override := ⟨1⟩

/-- The cell while the setting is overridden with `true`. -/
def on : Override := ⟨2⟩

/-- The cell of a value. -/
def ofBool (b : Bool) : Override := if b then on else off

/-- The cell of a value, if there is one. -/
def ofOption : Option Bool → Override
  | none => unset
  | some b => ofBool b

/-- The value in a cell. Any byte but those of the two values stands for none. -/
def value? (cell : Override) : Option Bool :=
  if cell = off then some false else if cell = on then some true else none

/-- A value is read from the one cell in which it is kept. -/
theorem value?_eq_some_iff {cell : Override} {b : Bool} :
    cell.value? = some b ↔ cell = ofBool b := by
  constructor
  · intro h
    unfold value? at h
    split at h
    · next hoff => cases h; exact hoff
    · split at h
      · next hon => cases h; exact hon
      · cases h
  · rintro rfl
    cases b <;> rfl

/-- What is kept in the cell is read from it. -/
theorem value?_ofOption (o : Option Bool) : (ofOption o).value? = o := by
  cases o with
  | none => rfl
  | some b => exact value?_eq_some_iff.2 rfl

end Override

/-! ## What the setting depends on -/

/-- The cell of the override, and the bytes of the variable, if it is set. -/
structure Settings where
  override : Override
  environment : Option ByteArray

/-- The setting that a text asks for. -/
def readFlag? (s : String) : Option Bool :=
  let word := String.ofList (Text.lowerAscii (Text.trim s.toList))
  if ["1", "true", "yes", "on"].contains word then some true
  else if ["0", "false", "no", "off"].contains word then some false
  else none

namespace Settings

/-- No override, and the variable is not set. -/
def initial : Settings := ⟨.unset, none⟩

/-- The settings with a value that overrides the variable. -/
def overrideWith (b : Bool) (s : Settings) : Settings := { s with override := .ofBool b }

/-- The settings without an override. -/
def clearOverride (s : Settings) : Settings := { s with override := .unset }

/-- The settings after the variable has changed. -/
def withEnvironment (bytes : Option ByteArray) (s : Settings) : Settings :=
  { s with environment := bytes }

/-- The text of the variable. Bytes that are no text count as if it were not set. -/
def variableText? (s : Settings) : Option String := s.environment.bind String.fromUTF8?

/-- Whether skipped scenarios make a run fail. -/
def failOnSkipped (s : Settings) : Logged Bool :=
  match s.override.value? with
  | some b => pure b
  | none =>
    match s.variableText? with
    | none => pure false
    | some text =>
      match readFlag? text with
      | some b => pure b
      | none => do
        Logged.tell .warn s!"ignoring unrecognised {variableName} value {Text.quoted text}"
        return false

end Settings

end Acceptance
