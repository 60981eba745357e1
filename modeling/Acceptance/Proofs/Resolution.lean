import Acceptance.Resolution
import Mathlib.Data.List.Forall2

/-!
# What resolving finds

A registry settles a step when exactly one definition accepts the text of the step. Resolving a
scenario splits its steps into the settled ones, which are bound to that definition, and the others,
which are reported with all definitions that accept them.

* `Registry.Settles` counts definitions, `Registry.definition?` is the one that is found.
* `Registry.boundSteps` and `Registry.reports` say what resolving steps has to give;
  `value_resolveSteps`, `value_resolveScenario` and `value_resolveFeature` say that it does.
* `resolveStep_cases` says that a step is bound, or reported with the problem that it has.
-/

namespace Acceptance

variable {σ : Type}

/-- The scenarios that stand for some features, each with its feature. -/
def flattened (fs : List Feature) : List (Feature × Scenario) :=
  fs.flatMap fun f => f.flatten.map fun sc => (f, sc)

@[simp] theorem flattened_nil : flattened [] = [] := rfl

@[simp] theorem flattened_cons (f : Feature) (fs : List Feature) :
    flattened (f :: fs) = (f.flatten.map fun sc => (f, sc)) ++ flattened fs := rfl

theorem mem_flattened {fs : List Feature} {f : Feature} {sc : Scenario} :
    (f, sc) ∈ flattened fs ↔ f ∈ fs ∧ sc ∈ f.flatten := by
  simp only [flattened, List.mem_flatMap, List.mem_map, Prod.mk.injEq]
  constructor
  · rintro ⟨g, hg, sc', hsc, rfl, rfl⟩
    exact ⟨hg, hsc⟩
  · rintro ⟨hf, hsc⟩
    exact ⟨f, hf, sc, hsc, rfl, rfl⟩

namespace Registry

/-! ### Settled steps -/

/-- The number of definitions that accept a text. -/
def matchCount (text : String) (r : Registry σ) : Nat :=
  r.registrations.countP fun x => x.matcher.accepts text

/-- Exactly one definition accepts the text of the step. -/
def Settles (r : Registry σ) (st : Step) : Prop := r.matchCount st.text = 1

instance (r : Registry σ) : DecidablePred r.Settles := fun st =>
  inferInstanceAs (Decidable (r.matchCount st.text = 1))

/-- The definition of a text, if exactly one definition accepts it. -/
def definition? (text : String) (r : Registry σ) : Option (Registration σ) :=
  match r.matching text with
  | [x] => some x
  | _ => none

theorem length_matching (text : String) (r : Registry σ) :
    (r.matching text).length = r.matchCount text := by
  rw [matching, matchCount, List.countP_eq_length_filter]

theorem settles_iff_exists {r : Registry σ} {st : Step} :
    r.Settles st ↔ ∃ x, r.matching st.text = [x] := by
  unfold Settles
  rw [← length_matching, List.length_eq_one_iff]

theorem definition?_eq_some_iff {r : Registry σ} {text : String} {x : Registration σ} :
    r.definition? text = some x ↔ r.matching text = [x] := by
  unfold definition?
  split
  · next y h => simp [h]
  · next h =>
    constructor
    · intro hn
      cases hn
    · intro hx
      exact absurd hx (h x)

theorem definition?_eq_none_iff {r : Registry σ} {st : Step} :
    r.definition? st.text = none ↔ ¬ r.Settles st := by
  rw [settles_iff_exists, Option.eq_none_iff_forall_ne_some, not_exists]
  exact forall_congr' fun x => not_congr definition?_eq_some_iff

theorem settles_of_definition? {r : Registry σ} {st : Step} {x : Registration σ}
    (h : r.definition? st.text = some x) : r.Settles st :=
  settles_iff_exists.2 ⟨x, definition?_eq_some_iff.1 h⟩

theorem filter_settles_cons_some {r : Registry σ} {st : Step} {x : Registration σ}
    (h : r.definition? st.text = some x) (steps : List Step) :
    ((st :: steps).filter fun st => r.Settles st) = st :: steps.filter fun st => r.Settles st :=
  List.filter_cons_of_pos (by simpa using settles_of_definition? h)

theorem filter_settles_cons_none {r : Registry σ} {st : Step} (h : r.definition? st.text = none)
    (steps : List Step) :
    ((st :: steps).filter fun st => r.Settles st) = steps.filter fun st => r.Settles st :=
  List.filter_cons_of_neg (by simpa using definition?_eq_none_iff.1 h)

/-! ### The resolution of a step -/

theorem resolveStep_of_definition? {r : Registry σ} {st : Step} {x : Registration σ}
    (h : r.definition? st.text = some x) : r.resolveStep st = .bound x :=
  resolveStep_eq_bound_iff.2 (definition?_eq_some_iff.1 h)

/-- A step is bound to the only definition that accepts it, or reported with the problem of their
number. The number of definitions of a step that is not bound always names a problem. -/
theorem resolveStep_cases (r : Registry σ) (st : Step) :
    (∃ x, r.resolveStep st = .bound x ∧ r.matching st.text = [x]) ∨
      ∃ p, r.resolveStep st = .unresolved p (r.matching st.text) ∧
        Problem.ofCount (r.matching st.text).length = some p := by
  unfold resolveStep
  match r.matching st.text with
  | [] => exact Or.inr ⟨.unmatched, rfl, rfl⟩
  | [x] => exact Or.inl ⟨x, rfl, rfl⟩
  | x :: y :: rest => exact Or.inr ⟨.ambiguous, rfl, rfl⟩

theorem resolveStep_of_not_settles {r : Registry σ} {st : Step} (h : ¬ r.Settles st) :
    ∃ p, r.resolveStep st = .unresolved p (r.matching st.text) := by
  rcases resolveStep_cases r st with ⟨x, -, hx⟩ | ⟨p, hp, -⟩
  · exact absurd (settles_iff_exists.2 ⟨x, hx⟩) h
  · exact ⟨p, hp⟩

/-! ### The resolution of a scenario -/

/-- The settled steps with their definitions. -/
def boundSteps (r : Registry σ) (steps : List Step) : List (BoundStep σ) :=
  steps.filterMap fun st => (r.definition? st.text).map fun x => ⟨st.index, st.text, x⟩

/-- The report of a step: where it stands, and all definitions that accept it. -/
def report (r : Registry σ) (feature scenario : String) (st : Step) : Diagnostic where
  feature := feature
  scenario := scenario
  step := st.text
  index := st.index
  candidates := (r.registrations.filter fun x => x.matcher.accepts st.text).map fun x =>
    ⟨x.id, x.keyword, x.matcher.text, x.handler.label⟩

/-- The reports of the steps that are not settled. -/
def reports (r : Registry σ) (feature scenario : String) (steps : List Step) : List Diagnostic :=
  (steps.filter fun st => ¬ r.Settles st).map (r.report feature scenario)

theorem boundSteps_cons_some {r : Registry σ} {st : Step} {x : Registration σ}
    (h : r.definition? st.text = some x) (steps : List Step) :
    r.boundSteps (st :: steps) = ⟨st.index, st.text, x⟩ :: r.boundSteps steps := by
  rw [boundSteps, List.filterMap_cons, h]
  rfl

theorem boundSteps_cons_none {r : Registry σ} {st : Step} (h : r.definition? st.text = none)
    (steps : List Step) : r.boundSteps (st :: steps) = r.boundSteps steps := by
  rw [boundSteps, List.filterMap_cons, h]
  rfl

theorem reports_cons_of_settles {r : Registry σ} {st : Step} (h : r.Settles st)
    (feature scenario : String) (steps : List Step) :
    r.reports feature scenario (st :: steps) = r.reports feature scenario steps := by
  rw [reports, List.filter_cons_of_neg (by simpa using h), reports]

theorem reports_cons_of_not_settles {r : Registry σ} {st : Step} (h : ¬ r.Settles st)
    (feature scenario : String) (steps : List Step) :
    r.reports feature scenario (st :: steps) =
      r.report feature scenario st :: r.reports feature scenario steps := by
  rw [reports, List.filter_cons_of_pos (by simpa using h), List.map_cons, reports]

/-- The bound steps are the settled ones, in their order. -/
theorem map_boundSteps (r : Registry σ) (steps : List Step) :
    (r.boundSteps steps).map (fun b => (⟨b.text, b.index⟩ : Step)) =
      steps.filter fun st => r.Settles st := by
  induction steps with
  | nil => rfl
  | cons st steps ih =>
    cases h : r.definition? st.text with
    | none => rw [boundSteps_cons_none h, ih, filter_settles_cons_none h]
    | some x => rw [boundSteps_cons_some h, List.map_cons, ih, filter_settles_cons_some h]

/-- Each settled step is bound to its definition. -/
theorem map_registration_boundSteps (r : Registry σ) (steps : List Step) :
    (r.boundSteps steps).map BoundStep.registration =
      steps.filterMap fun st => r.definition? st.text := by
  simp [boundSteps, List.map_filterMap, Option.map_map, Function.comp_def]

theorem forall₂_definitions (r : Registry σ) (steps : List Step) :
    List.Forall₂ (fun st x => r.matching st.text = [x]) (steps.filter fun st => r.Settles st)
      (steps.filterMap fun st => r.definition? st.text) := by
  induction steps with
  | nil => exact .nil
  | cons st steps ih =>
    cases h : r.definition? st.text with
    | none =>
      rw [List.filterMap_cons, h, filter_settles_cons_none h]
      exact ih
    | some x =>
      rw [List.filterMap_cons, h, filter_settles_cons_some h]
      exact .cons (definition?_eq_some_iff.1 h) ih

theorem matching_of_mem_boundSteps {r : Registry σ} {steps : List Step} {b : BoundStep σ}
    (h : b ∈ r.boundSteps steps) : r.matching b.text = [b.registration] := by
  obtain ⟨st, -, hb⟩ := List.mem_filterMap.1 h
  obtain ⟨x, hx, rfl⟩ := Option.map_eq_some_iff.1 hb
  exact definition?_eq_some_iff.1 hx

theorem length_boundSteps_eq_iff {r : Registry σ} {steps : List Step} :
    (r.boundSteps steps).length = steps.length ↔ ∀ st ∈ steps, r.Settles st := by
  have h : (r.boundSteps steps).length = (steps.filter fun st => r.Settles st).length := by
    rw [← map_boundSteps, List.length_map]
  rw [h, List.length_filter_eq_length_iff]
  simp

theorem reports_eq_nil_iff {r : Registry σ} {feature scenario : String} {steps : List Step} :
    r.reports feature scenario steps = [] ↔ ∀ st ∈ steps, r.Settles st := by
  simp [reports, List.filter_eq_nil_iff]

theorem value_resolveSteps (r : Registry σ) (feature scenario : String) (steps : List Step) :
    (r.resolveSteps feature scenario steps).value =
      ⟨r.boundSteps steps, r.reports feature scenario steps⟩ := by
  -- the recursion gives the results of the later steps, and a step adds to one of the two lists:
  -- which of them is told by the definition that is found
  induction steps with
  | nil => rfl
  | cons st steps ih =>
    unfold resolveSteps
    cases h : r.definition? st.text with
    | some x =>
      rw [resolveStep_of_definition? h, boundSteps_cons_some h,
        reports_cons_of_settles (settles_of_definition? h)]
      simp only [Logged.value_bind, Logged.value_pure, ih]
    | none =>
      have hs : ¬ r.Settles st := definition?_eq_none_iff.1 h
      obtain ⟨p, hp⟩ := resolveStep_of_not_settles hs
      rw [hp, boundSteps_cons_none h, reports_cons_of_not_settles hs]
      simp only [Logged.value_bind, Logged.value_pure, ih]
      rfl

theorem value_resolveScenario (r : Registry σ) (feature : String) (sc : Scenario) :
    (r.resolveScenario feature sc).value =
      ⟨⟨feature, sc.title, sc.steps.length, r.boundSteps sc.steps⟩,
        r.reports feature sc.title sc.steps⟩ := by
  simp only [resolveScenario, Logged.value_bind, Logged.value_pure, value_resolveSteps]

theorem value_resolveScenarios (r : Registry σ) (feature : String) (scs : List Scenario) :
    (r.resolveScenarios feature scs).value =
      ⟨scs.map fun sc => ⟨feature, sc.title, sc.steps.length, r.boundSteps sc.steps⟩,
        scs.flatMap fun sc => r.reports feature sc.title sc.steps⟩ := by
  induction scs with
  | nil => rfl
  | cons sc scs ih =>
    simp only [resolveScenarios, Logged.value_bind, Logged.value_pure, value_resolveScenario, ih,
      List.map_cons, List.flatMap_cons]

theorem value_resolveFeature (r : Registry σ) (f : Feature) :
    (r.resolveFeature f).value =
      ⟨f.flatten.map fun sc => ⟨f.title, sc.title, sc.steps.length, r.boundSteps sc.steps⟩,
        f.flatten.flatMap fun sc => r.reports f.title sc.title sc.steps⟩ :=
  value_resolveScenarios r f.title f.flatten

/-! ### Bound and reported steps -/

end Registry

/-- A scenario of a feature is split: its steps are parted, in their order, into the settled ones,
bound to their definitions, and the others, which are reported. -/
structure ScenarioResolution.Splits (r : Registry σ) (f : Feature) (sc : Scenario)
    (x : ScenarioResolution σ) : Prop where
  feature_eq : x.binding.feature = f.title
  scenario_eq : x.binding.scenario = sc.title
  parts_eq : (x.binding.bound.map fun b => (⟨b.text, b.index⟩ : Step),
      x.diagnostics.map fun d => (⟨d.step, d.index⟩ : Step)) =
    sc.steps.partition fun st => r.Settles st
  registration_eq : ∀ b ∈ x.binding.bound, r.matching b.text = [b.registration]
  diagnostics_eq : x.diagnostics =
    (sc.steps.filter fun st => ¬ r.Settles st).map (r.report f.title sc.title)
  isComplete_iff : x.binding.isComplete = true ↔ x.diagnostics = []

/-- Each flattened scenario of a feature is split, and nothing else is found. -/
def FeatureResolution.Splits (r : Registry σ) (f : Feature) (x : FeatureResolution σ) : Prop :=
  ∃ found : List (ScenarioResolution σ),
    x.bindings = found.map ScenarioResolution.binding ∧
    x.diagnostics = found.flatMap ScenarioResolution.diagnostics ∧
    List.Forall₂ (fun sc y => y.Splits r f sc) f.flatten found

namespace Registry

theorem splits_resolveScenario (r : Registry σ) (f : Feature) (sc : Scenario) :
    (r.resolveScenario f.title sc).value.Splits r f sc := by
  rw [value_resolveScenario]
  refine ⟨rfl, rfl, ?_, fun b hb => matching_of_mem_boundSteps hb, rfl, ?_⟩
  · rw [List.partition_eq_filter_filter]
    simp only [map_boundSteps, reports, List.map_map, Function.comp_def, report]
    simp
  · unfold Binding.isComplete
    rw [beq_iff_eq, length_boundSteps_eq_iff, reports_eq_nil_iff]

theorem splits_resolveFeature (r : Registry σ) (f : Feature) :
    (r.resolveFeature f).value.Splits r f := by
  refine ⟨f.flatten.map fun sc => (r.resolveScenario f.title sc).value, ?_, ?_, ?_⟩
  · simp only [value_resolveFeature, value_resolveScenario, List.map_map, Function.comp_def]
  · simp only [value_resolveFeature, value_resolveScenario, List.flatMap_map]
  · rw [List.forall₂_map_right_iff, List.forall₂_same]
    exact fun sc _ => splits_resolveScenario r f sc

/-! ### The reports of a run -/

/-- The reports of all steps of some features that are not settled: feature by feature, scenario by
scenario, step by step. -/
def allReports (r : Registry σ) (fs : List Feature) : List Diagnostic :=
  (flattened fs).flatMap fun p => r.reports p.1.title p.2.title p.2.steps

theorem allReports_cons (r : Registry σ) (f : Feature) (fs : List Feature) :
    r.allReports (f :: fs) =
      (f.flatten.flatMap fun sc => r.reports f.title sc.title sc.steps) ++ r.allReports fs := by
  rw [allReports, flattened_cons, List.flatMap_append, List.flatMap_map, allReports]

theorem allReports_eq_flatMap (r : Registry σ) (fs : List Feature) :
    r.allReports fs = fs.flatMap fun f => (r.resolveFeature f).value.diagnostics := by
  induction fs with
  | nil => rfl
  | cons f fs ih => rw [allReports_cons, List.flatMap_cons, ih, value_resolveFeature]

theorem allReports_eq_nil_iff {r : Registry σ} {fs : List Feature} :
    r.allReports fs = [] ↔ ∀ p ∈ flattened fs, ∀ st ∈ p.2.steps, r.Settles st := by
  rw [allReports, List.flatMap_eq_nil_iff]
  exact forall₂_congr fun p _ => reports_eq_nil_iff

theorem count_report (r : Registry σ) (feature scenario : String) (st : Step) :
    (r.report feature scenario st).count = r.matchCount st.text := by
  rw [Diagnostic.count, report, List.length_map, matchCount, List.countP_eq_length_filter]

theorem problem_report {r : Registry σ} {st : Step} (h : ¬ r.Settles st)
    (feature scenario : String) : (r.report feature scenario st).problem ≠ none := by
  intro hn
  rw [Diagnostic.problem, count_report, Problem.ofCount_eq_none_iff] at hn
  exact h hn

theorem problem_of_mem_allReports {r : Registry σ} {fs : List Feature} {d : Diagnostic}
    (h : d ∈ r.allReports fs) : d.problem ≠ none := by
  obtain ⟨p, -, hd⟩ := List.mem_flatMap.1 h
  obtain ⟨st, hst, rfl⟩ := List.mem_map.1 hd
  exact problem_report (by simpa using (List.mem_filter.1 hst).2) _ _

end Registry

/-- Diagnostics that all have a problem are counted once each. -/
theorem BindingFailure.countOf_add_countOf {ds : List Diagnostic}
    (h : ∀ d ∈ ds, d.problem ≠ none) :
    (⟨ds⟩ : BindingFailure).countOf .ambiguous + (⟨ds⟩ : BindingFailure).countOf .unmatched =
      ds.length := by
  simp only [countOf]
  -- the first diagnostic is counted under its own problem and not under the other one
  induction ds with
  | nil => rfl
  | cons d ds ih =>
    have hd := h d List.mem_cons_self
    have hds := ih fun d' hd' => h d' (List.mem_cons_of_mem d hd')
    simp only [List.countP_cons, List.length_cons]
    cases hp : d.problem with
    | none => exact absurd hp hd
    | some p => cases p <;> simp <;> omega

end Acceptance
