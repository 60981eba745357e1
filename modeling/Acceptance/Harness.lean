import Acceptance.Binding
import Acceptance.Plan
import Acceptance.Summary

/-!
# The harness

The harness is the adapter that records scenarios as plans and runs them one after the other.

* `Harness` holds the plans, `Harness.recorder` is the adapter. The scenarios that a feature defines
  are paired in order with its flattened scenarios, whose steps give the texts of the planned steps.
* `pairTexts` gives a step the source of its matcher for a text when the numbers of steps differ.
* `Harness.bind` binds features to modules, `Harness.runAll` runs the plans.
-/

namespace Acceptance

variable {σ : Type}

/-- Recorded plans. -/
structure Harness (σ : Type) where
  plans : List (Plan σ)

/-- A harness at work on a feature: the plans so far, the texts of the steps of the scenarios that
are not yet paired, and the steps that the scenario at hand has defined so far. -/
structure Recording (σ : Type) where
  plans : List (Plan σ)
  upcoming : List (List String)
  taken : List (Matcher × Handler σ)

/-- Nothing is recorded. -/
def Recording.start : Recording σ := ⟨[], [], []⟩

/-- The steps of a plan: with the texts, if there are as many of them, and otherwise each with the
source of its own matcher. -/
def pairTexts (texts : List String) (steps : List (Matcher × Handler σ)) : List (PlannedStep σ) :=
  if texts.length = steps.length then
    List.zipWith (fun t s => ⟨t, s.1, s.2⟩) texts steps
  else steps.map fun s => ⟨s.1.source, s.1, s.2⟩

namespace Harness

/-- Takes the steps of a scenario. -/
def collector : StepBinder σ (Recording σ) :=
  ⟨fun m h => modify fun r => { r with taken := r.taken ++ [(m, h)] }⟩

/-- Takes a scenario of a feature: runs the program of its steps, pairs them with the next scenario
of the feature, and records the plan. -/
def planScenario (feature : Feature) : ScenarioRegistrar σ (Recording σ) :=
  ⟨fun title body => do
    modify fun r => { r with taken := [] }
    body collector
    AdapterM.tell .debug s!"planned scenario \"{title}\" in feature \"{feature.title}\""
    modify fun r =>
      { r with
        plans := r.plans ++ [⟨⟨feature.title, title⟩, pairTexts (r.upcoming.headD []) r.taken⟩]
        upcoming := r.upcoming.tail }⟩

/-- The adapter that records plans. -/
def recorder : Adapter σ (Recording σ) :=
  ⟨fun feature tests => do
    modify fun r => { r with upcoming := feature.flatten.map Scenario.texts }
    tests (planScenario feature)⟩

/-- The harness of the features, bound to the definitions of modules. -/
def bind (fs : List Feature) (ms : List (Module σ)) : Logged (Except BindError (Harness σ)) := do
  let (result, recording) ← (bindModules fs ms recorder).run .start
  return result.map fun _ => ⟨recording.plans⟩

/-- The log record of a scenario that has run. -/
def report (t : Title) (o : Outcome) : Logged Unit :=
  Logged.tell (if o.isPassed then .info else .warn)
    s!"scenario \"{t.scenario}\" in feature \"{t.feature}\" {o}"

/-- Runs plans in order. -/
def runPlans [EmptyCollection σ] : List (Plan σ) → Logged (List (Title × Run σ))
  | [] => pure []
  | p :: ps => do
    let r := p.run
    report p.title r.outcome
    return (p.title, r) :: (← runPlans ps)

/-- Runs all plans; each starts from an empty context. -/
def runAll [EmptyCollection σ] (h : Harness σ) : Logged (List (Title × Run σ)) :=
  runPlans h.plans

/-- The summary of the runs of some plans. -/
def summarize (runs : List (Title × Run σ)) : Summary :=
  ⟨runs.map fun r => ⟨r.1, r.2.outcome⟩⟩

end Harness

end Acceptance
