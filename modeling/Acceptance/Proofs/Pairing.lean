import Acceptance.Harness
import Acceptance.Proofs.Binding

/-!
# How the harness pairs scenarios

The harness is told of scenarios one after the other and takes the texts of their steps from the
flattened scenarios of the feature, by position alone. Who tells it may tell other scenarios than
the feature holds, more or fewer of them, or in another order.

* A `DefinedFeature` is what the harness is told: a feature and, of its own making, a list of
  `DefinedScenario`. `defineAll` tells a list of them.
* `DefinedScenario.plan` and `DefinedFeature.plans` are the plans that are recorded;
  `plans_defineAll` says that these are added to the plans that the harness holds.
* `Plan.Pairs` says what a plan has of the scenario that was defined and of the one of the feature.
-/

namespace Acceptance

open AdapterM

variable {σ S : Type}

/-! ### What the harness is told -/

/-- A scenario as it is defined for a feature. -/
structure DefinedScenario (σ : Type) where
  title : String
  steps : List (Matcher × Handler σ)

/-- A feature with the scenarios that are defined for it, whatever it holds itself. -/
structure DefinedFeature (σ : Type) where
  feature : Feature
  scenarios : List (DefinedScenario σ)

/-- The program that defines a scenario. -/
def DefinedScenario.define (d : DefinedScenario σ) (tests : ScenarioRegistrar σ S) :
    AdapterM S Unit :=
  tests.test d.title fun steps => forM d.steps fun s => steps.defineStep s.1 s.2

/-- Hands a feature over with the program that defines its scenarios. -/
def DefinedFeature.define (a : Adapter σ S) (d : DefinedFeature σ) : AdapterM S Unit :=
  a.defineFeature d.feature fun tests => forM d.scenarios fun sc => sc.define tests

/-- Hands features over in order. -/
def defineAll (a : Adapter σ S) (ds : List (DefinedFeature σ)) : AdapterM S Unit :=
  forM ds fun d => d.define a

/-! ### What it records -/

/-- The plan of a scenario that is paired with some texts. -/
def DefinedScenario.plan (f : Feature) (texts : List String) (d : DefinedScenario σ) : Plan σ :=
  ⟨⟨f.title, d.title⟩, pairTexts texts d.steps⟩

/-- The plans of the scenarios that are defined for a feature: each is paired with the texts of the
flattened scenario at its own position, if there is one. -/
def DefinedFeature.plans (d : DefinedFeature σ) : List (Plan σ) :=
  d.scenarios.mapIdx fun k sc =>
    sc.plan d.feature ((d.feature.flatten.map Scenario.texts).getD k [])

namespace Harness

theorem after_collector (steps : List (Matcher × Handler σ)) (rec : Recording σ) :
    after (forM steps fun s => collector.defineStep s.1 s.2) rec =
      { rec with taken := rec.taken ++ steps } := by
  induction steps generalizing rec with
  | nil => simp
  | cons s steps ih =>
    rw [after_forM_cons, ih]
    simp [collector]

theorem after_planScenario (f : Feature) (d : DefinedScenario σ) (rec : Recording σ) :
    after (d.define (planScenario f)) rec =
      ⟨rec.plans ++ [d.plan f (rec.upcoming.headD [])], rec.upcoming.tail, d.steps⟩ := by
  unfold DefinedScenario.define planScenario
  simp only [after_bind, after_modify, after_tell, after_collector, List.nil_append]
  rfl

/-- Scenarios are paired in order with the texts that are put up. -/
theorem plans_scenarios (f : Feature) (ds : List (DefinedScenario σ)) (rec : Recording σ) :
    (after (forM ds fun d => d.define (planScenario f)) rec).plans =
      rec.plans ++ ds.mapIdx fun k d => d.plan f (rec.upcoming.getD k []) := by
  -- each scenario takes the first of the texts, so that the positions of the others go down by one
  induction ds generalizing rec with
  | nil => simp
  | cons d ds ih =>
    have next : ∀ k, rec.upcoming.tail.getD k [] = rec.upcoming.getD (k + 1) [] := fun k => by
      rw [List.getD_eq_getElem?_getD, List.getElem?_tail, List.getD_eq_getElem?_getD]
    rw [after_forM_cons, after_planScenario, ih, List.mapIdx_cons, List.append_assoc]
    simp only [next, List.singleton_append]
    cases rec.upcoming <;> rfl

theorem plans_define (d : DefinedFeature σ) (rec : Recording σ) :
    (after (d.define recorder) rec).plans = rec.plans ++ d.plans := by
  unfold DefinedFeature.define recorder
  simp only [after_bind, after_modify]
  exact plans_scenarios d.feature d.scenarios _

/-- What a feature leaves in the recording beside its plans makes no difference to the next one. -/
theorem plans_defineAll (ds : List (DefinedFeature σ)) (rec : Recording σ) :
    (after (defineAll recorder ds) rec).plans = rec.plans ++ ds.flatMap DefinedFeature.plans := by
  unfold defineAll
  induction ds generalizing rec with
  | nil => simp
  | cons d ds ih =>
    rw [after_forM_cons, ih, plans_define, List.flatMap_cons, List.append_assoc]

end Harness

/-! ### Texts and steps -/

section

variable {texts : List String} {steps : List (Matcher × Handler σ)}

theorem pairTexts_of_length_eq (h : texts.length = steps.length) :
    pairTexts texts steps = (texts.zip steps).map fun p => ⟨p.1, p.2.1, p.2.2⟩ := by
  rw [pairTexts, if_pos h, ← List.map_uncurry_zip_eq_zipWith]
  rfl

theorem pairTexts_of_length_ne (h : texts.length ≠ steps.length) :
    pairTexts texts steps = steps.map fun s => ⟨s.1.source, s.1, s.2⟩ := by
  rw [pairTexts, if_neg h]

theorem texts_pairTexts (h : texts.length = steps.length) :
    (pairTexts texts steps).map PlannedStep.text = texts := by
  rw [pairTexts_of_length_eq h, List.map_map]
  exact List.map_fst_zip (Nat.le_of_eq h)

theorem text_of_mem_pairTexts (h : texts.length ≠ steps.length) {q : PlannedStep σ}
    (hq : q ∈ pairTexts texts steps) : q.text = q.matcher.source := by
  rw [pairTexts_of_length_ne h] at hq
  obtain ⟨s, -, rfl⟩ := List.mem_map.1 hq
  rfl

/-- No step is lost or made up. -/
theorem steps_pairTexts (texts : List String) (steps : List (Matcher × Handler σ)) :
    (pairTexts texts steps).map (fun q => (q.matcher, q.handler)) = steps := by
  by_cases fits : texts.length = steps.length
  · rw [pairTexts_of_length_eq fits, List.map_map]
    exact List.map_snd_zip (Nat.le_of_eq fits.symm)
  · rw [pairTexts_of_length_ne fits, List.map_map]
    exact List.map_id steps

end

/-! ### Pairs -/

/-- The plan of a scenario that is defined for a feature, beside the scenario that the feature
itself may have at that position: its texts are used if there are as many of them. -/
structure Plan.Pairs (f : Feature) (sc? : Option Scenario) (d : DefinedScenario σ) (p : Plan σ) :
    Prop where
  title_eq : p.title = ⟨f.title, d.title⟩
  steps_eq : p.steps.map (fun q => (q.matcher, q.handler)) = d.steps
  texts_eq : ∀ sc, sc? = some sc → sc.steps.length = d.steps.length →
    p.steps.map PlannedStep.text = sc.texts
  source_eq : (∀ sc, sc? = some sc → sc.steps.length ≠ d.steps.length) →
    ∀ q ∈ p.steps, q.text = q.matcher.source

theorem Scenario.length_texts (sc : Scenario) : sc.texts.length = sc.steps.length :=
  List.length_map _

theorem DefinedScenario.pairs_plan (f : Feature) (sc? : Option Scenario) (d : DefinedScenario σ) :
    (d.plan f ((sc?.map Scenario.texts).getD [])).Pairs f sc? d where
  title_eq := rfl
  steps_eq := steps_pairTexts _ d.steps
  texts_eq := by
    rintro sc rfl fits
    exact texts_pairTexts (sc.length_texts.trans fits)
  source_eq := by
    intro misfits q hq
    cases sc? with
    | some sc => exact text_of_mem_pairTexts (sc.length_texts ▸ misfits sc rfl) hq
    | none =>
      -- no texts fit only a scenario without steps, which has no step to speak of
      cases hs : d.steps with
      | nil =>
        rw [plan, hs] at hq
        cases hq
      | cons s steps => exact text_of_mem_pairTexts (by rw [hs]; nofun) hq

theorem DefinedFeature.pairs_of_getElem? {d : DefinedFeature σ} {k : Nat} {sc : DefinedScenario σ}
    {p : Plan σ} (hsc : d.scenarios[k]? = some sc) (hp : d.plans[k]? = some p) :
    p.Pairs d.feature d.feature.flatten[k]? sc := by
  rw [plans, List.getElem?_mapIdx, hsc, Option.map_some, List.getD_eq_getElem?_getD,
    List.getElem?_map] at hp
  rw [← Option.some.inj hp]
  exact sc.pairs_plan d.feature d.feature.flatten[k]?

/-- **Scenarios are paired by their positions.** Whatever the harness is told, and whatever it holds
already, it keeps its plans and adds one for each scenario that is defined, in order. The scenario
that is defined at a position is paired with the flattened scenario of its own feature at that
position: if there is one with as many steps, the plan has its texts, and otherwise each step has
the source of its matcher for a text. In both cases the steps are those that were defined. -/
theorem recorder_pairs_by_position (ds : List (DefinedFeature σ)) (rec : Recording σ) :
    ∃ added : List (List (Plan σ)),
      (after (defineAll Harness.recorder ds) rec).plans = rec.plans ++ added.flatten ∧
      List.Forall₂ (fun (d : DefinedFeature σ) (ps : List (Plan σ)) =>
          ps.length = d.scenarios.length ∧
          ∀ (k : Nat) (sc : DefinedScenario σ) (p : Plan σ), d.scenarios[k]? = some sc →
            ps[k]? = some p → p.Pairs d.feature d.feature.flatten[k]? sc)
        ds added := by
  refine ⟨ds.map DefinedFeature.plans, Harness.plans_defineAll ds rec, ?_⟩
  rw [List.forall₂_map_right_iff, List.forall₂_same]
  exact fun d _ => ⟨List.length_mapIdx, fun k sc p => DefinedFeature.pairs_of_getElem?⟩

/-- A scenario under another title, one with a step too many and one too many are defined; then the
feature is defined again. -/
example :
    let m (t : String) : Matcher × Handler Unit := (.literal t, .always "handler" .done)
    let f : Feature := ⟨"Users", [.ofTexts "Sign in" ["a user", "they sign in"],
      .ofTexts "Sign out" ["they sign out"]], [⟨"Rows", []⟩]⟩
    let ds : List (DefinedFeature Unit) :=
      [⟨f, [⟨"Enter", [m "1", m "2"]⟩, ⟨"Sign out", [m "3", m "4"]⟩, ⟨"Rows", [m "5"]⟩]⟩,
        ⟨f, [⟨"Sign out", [m "6", m "7"]⟩]⟩]
    (after (defineAll Harness.recorder ds) .start).plans.map
        (fun p => p.steps.map PlannedStep.text) =
      [["a user", "they sign in"], ["3", "4"], ["5"], ["a user", "they sign in"]] := rfl

end Acceptance
