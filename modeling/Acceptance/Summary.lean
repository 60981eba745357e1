import Acceptance.Outcome
import Acceptance.Settings

/-!
# Summaries of runs

A summary holds one record for each scenario of a run. Failed scenarios fail the run; skipped ones
fail it if the settings say so.

* `Summary.passed`, `failed` and `skipped` count the records.
* `Summary.verdict` is the summary itself, or the reason why the run fails.
* `Summary.verdictUnder` takes the policy for skipped scenarios from the settings.
-/

namespace Acceptance

/-- A scenario of a run with its outcome. -/
structure ScenarioRecord where
  title : Title
  outcome : Outcome
deriving DecidableEq, Repr

/-- The scenarios of a run. -/
structure Summary where
  records : List ScenarioRecord
deriving DecidableEq, Repr

/-- The reasons for which a run fails. -/
inductive RunFailure where
  | scenariosFailed (failed total : Nat) (first : String)
  | skippedDisallowed (skipped : Nat)
deriving DecidableEq, Repr

/-- The message of a failed run. -/
def RunFailure.message : RunFailure → String
  | .scenariosFailed failed total first =>
    s!"{failed} of {total} scenarios failed; first failure in \"{first}\""
  | .skippedDisallowed skipped =>
    s!"{skipped} scenarios were skipped and fail_on_skipped is enabled"

namespace Summary

/-- The number of scenarios. -/
def size (s : Summary) : Nat := s.records.length

/-- The number of scenarios that passed. -/
def passed (s : Summary) : Nat := s.records.countP fun r => r.outcome.isPassed

/-- The number of scenarios that failed. -/
def failed (s : Summary) : Nat := s.records.countP fun r => r.outcome.isFailed

/-- The number of scenarios that were skipped. -/
def skipped (s : Summary) : Nat := s.records.countP fun r => r.outcome.isSkipped

/-- Whether the run is a success, where `failOnSkipped` says if skipped scenarios make it fail. -/
def verdict (failOnSkipped : Bool) (s : Summary) : Except RunFailure Summary :=
  match s.records.find? fun r => r.outcome.isFailed with
  | some r => .error (.scenariosFailed s.failed s.size r.title.scenario)
  | none =>
    if failOnSkipped && 0 < s.skipped then .error (.skippedDisallowed s.skipped) else .ok s

/-- Whether the run is a success under some settings. -/
def verdictUnder (settings : Settings) (s : Summary) : Logged (Except RunFailure Summary) := do
  return s.verdict (← settings.failOnSkipped)

end Summary

end Acceptance
