import Acceptance.Handler
import Acceptance.Matcher
import Acceptance.Outcome

/-!
# Plans

A plan is a scenario that is ready to run: its steps with their texts and handlers. It runs in a
context of its own, which is empty at first, and ends with the first step that does not succeed.

* `PlannedStep.sequence` runs steps from a context; a `Run` is the outcome, the context that is left
  and the steps whose handlers were called.
* `Plan.run` runs a plan.
-/

namespace Acceptance

variable {σ : Type}

/-- A step with what it runs. -/
structure PlannedStep (σ : Type) where
  text : String
  matcher : Matcher
  handler : Handler σ

/-- A scenario that is ready to run. -/
structure Plan (σ : Type) where
  title : Title
  steps : List (PlannedStep σ)

/-- What came of running steps: the outcome, the context that is left, and the steps whose handlers
were called, in order. -/
structure Run (σ : Type) where
  outcome : Outcome
  context : σ
  called : List (PlannedStep σ)

/-- The run with one more step called before it. -/
def Run.after (s : PlannedStep σ) (r : Run σ) : Run σ := { r with called := s :: r.called }

/-- Runs steps in order, the first one at position `i`, up to the first that does not succeed. -/
def PlannedStep.sequence : Nat → List (PlannedStep σ) → σ → Run σ
  | _, [], c => ⟨.passed, c, []⟩
  | i, s :: rest, c =>
    let (ending, c) := s.handler.run c
    match ending.error? with
    | none => (sequence (i + 1) rest c).after s
    | some (.skipped m) => ⟨.skipped m, c, [s]⟩
    | some e => ⟨.failed i s.text e, c, [s]⟩

/-- Runs a plan. -/
def Plan.run [EmptyCollection σ] (p : Plan σ) : Run σ :=
  PlannedStep.sequence 0 p.steps ∅

@[simp] theorem PlannedStep.sequence_nil (i : Nat) (c : σ) :
    sequence i ([] : List (PlannedStep σ)) c = ⟨.passed, c, []⟩ := rfl

end Acceptance
