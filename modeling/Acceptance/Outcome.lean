import Acceptance.StepError

/-!
# Outcomes of scenarios

How a scenario ended, and where the records of a run keep it.

* `Outcome` is how a scenario ended, `Outcome.text` says so in words.
* `Title` names a scenario by its feature and its own title.
-/

namespace Acceptance

/-- How a scenario ended. -/
inductive Outcome where
  | passed
  | failed (index : Nat) (step : String) (error : StepError)
  | skipped (message : Option String)
deriving DecidableEq, Repr

namespace Outcome

/-- Whether all steps succeeded. -/
def isPassed : Outcome → Bool
  | .passed => true
  | _ => false

/-- Whether a step failed. -/
def isFailed : Outcome → Bool
  | .failed .. => true
  | _ => false

/-- Whether the scenario was skipped. -/
def isSkipped : Outcome → Bool
  | .skipped _ => true
  | _ => false

/-- The text of an outcome. -/
def text : Outcome → String
  | .passed => "passed"
  | .failed i step e => s!"failed at step {i} \"{step}\": {e}"
  | .skipped (some m) => s!"skipped: {m}"
  | .skipped none => "skipped"

instance : ToString Outcome := ⟨text⟩

end Outcome

/-- The names of a scenario. -/
structure Title where
  feature : String
  scenario : String
deriving DecidableEq, Repr

/-- The names of a scenario that has none. -/
def Title.unknown : Title := ⟨"<unknown>", "<unknown>"⟩

end Acceptance
