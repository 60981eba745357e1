/-!
# Step errors

The ways in which a step can end other than well.
-/

namespace Acceptance

/-- How a step ended that did not succeed. -/
inductive StepError where
  | failed (message : String)
  | panicked (message : String)
  | skipped (message : Option String)
deriving DecidableEq, Repr

namespace StepError

/-- Whether the step asked to be skipped. -/
def isSkip : StepError → Bool
  | .skipped _ => true
  | _ => false

/-- The message of a step error. -/
def message : StepError → Option String
  | .failed m | .panicked m => some m
  | .skipped m => m

/-- The text of a step error. -/
def text : StepError → String
  | .failed m => s!"step failed: {m}"
  | .panicked m => s!"step panicked: {m}"
  | .skipped (some m) => s!"step skipped: {m}"
  | .skipped none => "step skipped"

instance : ToString StepError := ⟨text⟩

end StepError

end Acceptance
