import Acceptance.Payload
import Acceptance.StepError
import Acceptance.Text.Quoted

/-!
# Step handlers

A handler is what a step definition runs. It works on the context of its scenario, whose type is
`σ`, and carries a label for diagnostics.

* `Ending` says how a run of a handler ended, `Ending.result` what the scenario makes of it.
* `Handler.relabel` changes the label only.
* `Handler.description` shows a handler; of what it runs only the label can be shown.
-/

namespace Acceptance

/-- How a run of a handler ended. -/
inductive Ending where
  | done
  | error (e : StepError)
  | brokeOff (p : Payload)
deriving DecidableEq, Repr

/-- The error of an ending, if it is one. A run that broke off counts as an error with the message
of what it left behind. -/
def Ending.error? : Ending → Option StepError
  | .done => none
  | .error e => some e
  | .brokeOff p => some (.panicked p.message)

/-- What a step definition runs. -/
structure Handler (σ : Type) where
  label : String
  run : σ → Ending × σ

namespace Handler

variable {σ : Type}

/-- A handler that changes nothing and ends in one way. -/
def always (label : String) (e : Ending) : Handler σ := ⟨label, fun c => (e, c)⟩

/-- The handler under another label. -/
def relabel (label : String) (h : Handler σ) : Handler σ := { h with label }

/-- The text that shows a handler. -/
def description (h : Handler σ) : String :=
  "StepHandler \x7b label: " ++ Text.quoted h.label ++ ", .. \x7d"

end Handler

end Acceptance
