import Acceptance.Diagnostic
import Acceptance.Feature

/-!
# Resolving steps

A step is bound to a definition when exactly one definition accepts its text. All other steps are
reported, and resolving goes on, so that one run reports every problem.

* `Registry.resolveStep` finds the definition of a step, or the problem.
* `Registry.resolveScenario` and `Registry.resolveFeature` collect the bound steps and the
  diagnostics; bound steps are logged.
* `Binding.isComplete` says that all steps of a scenario are bound.
-/

namespace Acceptance

variable {σ : Type}

/-- What becomes of a step. -/
inductive Resolved (σ : Type) where
  | bound (x : Registration σ)
  | unresolved (p : Problem) (found : List (Registration σ))

/-- Finds the definition of a step, or names the problem of the number of definitions that match. -/
def Registry.resolveStep (r : Registry σ) (s : Step) : Resolved σ :=
  let found := r.matching s.text
  match Problem.ofCount found.length, found.head? with
  | none, some x => .bound x
  | p, _ => .unresolved (p.getD .unmatched) found

/-- A step with the definition it is bound to. -/
structure BoundStep (σ : Type) where
  index : Nat
  text : String
  registration : Registration σ

/-- The bound steps of a scenario in their order, and the number of its steps, bound or not. -/
structure Binding (σ : Type) where
  feature : String
  scenario : String
  stepCount : Nat
  bound : List (BoundStep σ)

/-- Whether all steps are bound. -/
def Binding.isComplete (b : Binding σ) : Bool := b.bound.length == b.stepCount

/-- The bound steps and the diagnostics of some steps, in the order of the steps. -/
structure StepsResolution (σ : Type) where
  bound : List (BoundStep σ)
  diagnostics : List Diagnostic

/-- A scenario with its bound steps and diagnostics. -/
structure ScenarioResolution (σ : Type) where
  binding : Binding σ
  diagnostics : List Diagnostic

/-- A feature with the bindings of its flattened scenarios and all diagnostics. -/
structure FeatureResolution (σ : Type) where
  bindings : List (Binding σ)
  diagnostics : List Diagnostic

namespace Registry

/-- The diagnostic of a step for which some definitions were found. -/
def diagnose (feature scenario : String) (s : Step) (found : List (Registration σ)) : Diagnostic :=
  ⟨feature, scenario, s.text, s.index, found.map Registration.candidate⟩

/-- Resolves steps of a scenario in order. -/
def resolveSteps (r : Registry σ) (feature scenario : String) :
    List Step → Logged (StepsResolution σ)
  | [] => pure ⟨[], []⟩
  | s :: rest =>
    match r.resolveStep s with
    | .bound x => do
      Logged.tell .debug
        s!"bound step {s.index} \"{s.text}\" of \"{scenario}\" to {x.matcher.text}"
      let found ← r.resolveSteps feature scenario rest
      return { found with bound := ⟨s.index, s.text, x⟩ :: found.bound }
    | .unresolved _ xs => do
      let found ← r.resolveSteps feature scenario rest
      return { found with diagnostics := diagnose feature scenario s xs :: found.diagnostics }

/-- Resolves the steps of a scenario. -/
def resolveScenario (r : Registry σ) (feature : String) (s : Scenario) :
    Logged (ScenarioResolution σ) := do
  let found ← r.resolveSteps feature s.title s.steps
  return ⟨⟨feature, s.title, s.steps.length, found.bound⟩, found.diagnostics⟩

/-- Resolves scenarios in order. -/
def resolveScenarios (r : Registry σ) (feature : String) :
    List Scenario → Logged (FeatureResolution σ)
  | [] => pure ⟨[], []⟩
  | s :: rest => do
    let first ← r.resolveScenario feature s
    let others ← r.resolveScenarios feature rest
    return ⟨first.binding :: others.bindings, first.diagnostics ++ others.diagnostics⟩

/-- Resolves the flattened scenarios of a feature. -/
def resolveFeature (r : Registry σ) (f : Feature) : Logged (FeatureResolution σ) :=
  r.resolveScenarios f.title f.flatten

theorem resolveStep_eq_bound_iff {r : Registry σ} {s : Step} {x : Registration σ} :
    r.resolveStep s = .bound x ↔ r.matching s.text = [x] := by
  unfold resolveStep
  match r.matching s.text with
  | [] => simp [Problem.ofCount]
  | [y] => simp [Problem.ofCount]
  | y :: z :: rest => simp [Problem.ofCount]

end Registry

end Acceptance
