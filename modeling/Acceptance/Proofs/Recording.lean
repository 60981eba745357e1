import Acceptance.Proofs.Pairing

/-!
# What the harness records

The harness pairs the scenarios that are defined for a feature, one after the other, with the
flattened scenarios of the feature. Both sides walk the same list, so each plan gets the texts of
its own scenario; whether they fit is told from the number of steps alone.

* `Registry.plan` is the plan of a scenario, `Registry.defined` is what binding defines for a
  feature; `plans_defined` and `plans_bindWith` say that one plan is recorded for each flattened
  scenario, in order.
* `Plan.Complete` and `Plan.Partial` are the two kinds of plans; `plan_complete` and `plan_partial`
  say which scenarios get which.
* `bind_eq_ok_iff` says when the harness is bound, and to what.
-/

namespace Acceptance

open AdapterM

variable {σ S : Type}

/-! ### One scenario -/

/-- A definition as the harness takes it. -/
def Registration.taken (x : Registration σ) : Matcher × Handler σ := (x.matcher, x.handler)

/-- The plan of a scenario. -/
def Registry.plan (r : Registry σ) (f : Feature) (sc : Scenario) : Plan σ :=
  ⟨⟨f.title, sc.title⟩, pairTexts sc.texts ((r.definitions sc).map Registration.taken)⟩

/-! ### Two kinds of plans -/

/-- A planned step runs the only definition that accepts the text of a step, under the text that is
made of the step and the matcher. -/
def PlannedStep.Runs (r : Registry σ) (text : Step → Matcher → String) (st : Step)
    (q : PlannedStep σ) : Prop :=
  ∃ x, r.matching st.text = [x] ∧ q = ⟨text st x.matcher, x.matcher, x.handler⟩

/-- All steps of the scenario are planned, each with its own text. -/
def Plan.Complete (r : Registry σ) (sc : Scenario) (p : Plan σ) : Prop :=
  List.Forall₂ (PlannedStep.Runs r fun st _ => st.text) sc.steps p.steps

/-- The settled steps of the scenario are planned, each with the source of its matcher for a
text. -/
def Plan.Partial (r : Registry σ) (sc : Scenario) (p : Plan σ) : Prop :=
  List.Forall₂ (PlannedStep.Runs r fun _ m => m.source) (sc.steps.filter fun st => r.Settles st)
    p.steps

namespace Registry

theorem length_definitions_eq_iff (r : Registry σ) (sc : Scenario) :
    (r.definitions sc).length = sc.steps.length ↔ ∀ st ∈ sc.steps, r.Settles st := by
  rw [definitions, ← map_registration_boundSteps, List.length_map, length_boundSteps_eq_iff]

/-- As many texts as definitions are paired one by one. -/
theorem runs_pairTexts {r : Registry σ} {steps : List Step} {xs : List (Registration σ)}
    (h : List.Forall₂ (fun st x => r.matching st.text = [x]) steps xs) :
    List.Forall₂ (PlannedStep.Runs r fun st _ => st.text) steps
      (pairTexts (steps.map Step.text) (xs.map Registration.taken)) := by
  have hl : (steps.map Step.text).length = (xs.map Registration.taken).length := by
    rw [List.length_map, List.length_map, h.length_eq]
  rw [pairTexts, if_pos hl, List.zipWith_map]
  -- the choice is made; from here on the number of steps does not matter
  clear hl
  induction h with
  | nil => exact .nil
  | cons hx _ ih => exact .cons ⟨_, hx, rfl⟩ ih

theorem plan_complete {r : Registry σ} {sc : Scenario} (h : ∀ st ∈ sc.steps, r.Settles st)
    (f : Feature) : (r.plan f sc).Complete r sc := by
  have hf : (sc.steps.filter fun st => r.Settles st) = sc.steps :=
    List.filter_eq_self.2 fun st hst => by simpa using h st hst
  have hd := forall₂_definitions r sc.steps
  rw [hf] at hd
  exact runs_pairTexts hd

theorem plan_partial {r : Registry σ} {sc : Scenario} (h : ¬ ∀ st ∈ sc.steps, r.Settles st)
    (f : Feature) : (r.plan f sc).Partial r sc := by
  have hl : ¬ sc.texts.length = ((r.definitions sc).map Registration.taken).length := by
    rw [List.length_map, Scenario.texts, List.length_map]
    exact fun hl => h ((length_definitions_eq_iff r sc).1 hl.symm)
  unfold Plan.Partial plan
  simp only [pairTexts, if_neg hl, List.map_map]
  rw [List.forall₂_map_right_iff]
  exact (forall₂_definitions r sc.steps).imp fun st x hx => ⟨x, hx, rfl⟩

end Registry

/-! ### All scenarios -/

namespace Registry

/-- What binding defines for a feature: its flattened scenarios, with the definitions of their
settled steps. -/
def defined (r : Registry σ) (f : Feature) : DefinedFeature σ :=
  ⟨f, f.flatten.map fun sc => ⟨sc.title, (r.definitions sc).map Registration.taken⟩⟩

theorem handOver_eq (r : Registry σ) (a : Adapter σ S) (fs : List Feature) :
    r.handOver a fs = defineAll a (fs.map r.defined) := by
  unfold handOver defineAll
  rw [List.forM_map]
  congr 1
  funext f
  unfold scenarioCalls stepCalls DefinedFeature.define DefinedScenario.define defined
  simp only [List.forM_map]
  rfl

/-- Each scenario is defined at the position at which it stands in the feature. -/
theorem plans_defined (r : Registry σ) (f : Feature) :
    (r.defined f).plans = f.flatten.map (r.plan f) := by
  refine List.ext_getElem? fun k => ?_
  unfold DefinedFeature.plans defined
  rw [List.getElem?_mapIdx, List.getElem?_map, List.getElem?_map, List.getD_eq_getElem?_getD,
    List.getElem?_map]
  cases f.flatten[k]? <;> rfl

end Registry

namespace Harness

theorem plans_handOver (r : Registry σ) (fs : List Feature) (rec : Recording σ) :
    (after (r.handOver recorder fs) rec).plans =
      rec.plans ++ (flattened fs).map fun p => r.plan p.1 p.2 := by
  rw [Registry.handOver_eq, plans_defineAll, List.flatMap_map]
  simp only [Registry.plans_defined, flattened, List.map_flatMap, List.map_map]
  rfl

theorem plans_bindWith (fs : List Feature) (r : Registry σ) :
    (after (bindWith fs r recorder) .start).plans =
      (flattened fs).map fun p => r.plan p.1 p.2 := by
  rw [after_bindWith, plans_handOver]
  rfl

/-- The harness is bound exactly if the definitions can be registered and every step is settled. -/
theorem bind_eq_ok_iff {fs : List Feature} {ms : List (Module σ)} {h : Harness σ} :
    (Harness.bind fs ms).value = .ok h ↔
      ∃ r, (Registry.ofModules ms).value = .ok r ∧
        (∀ p ∈ flattened fs, ∀ st ∈ p.2.steps, r.Settles st) ∧
        h.plans = (flattened fs).map fun p => r.plan p.1 p.2 := by
  have hv : (Harness.bind fs ms).value =
      (answer (bindModules fs ms recorder) .start).map fun _ =>
        (⟨(after (bindModules fs ms recorder) .start).plans⟩ : Harness σ) := rfl
  rw [hv]
  cases hr : (Registry.ofModules ms).value with
  | error e =>
    rw [answer_bindModules_of_error hr]
    simp [Except.map]
  | ok r =>
    rw [answer_bindModules_of_ok hr, after_bindModules_of_ok hr, plans_handOver]
    by_cases hs : r.allReports fs = []
    · have hp := Registry.allReports_eq_nil_iff.1 hs
      simp only [hs, conclude, Except.mapError, Except.map, Except.ok.injEq]
      constructor
      · rintro rfl
        exact ⟨r, rfl, hp, rfl⟩
      · rintro ⟨r', rfl, -, hh⟩
        cases h
        exact congrArg Harness.mk hh.symm
    · rw [conclude_of_ne_nil hs]
      simp only [Except.mapError, Except.map, reduceCtorEq, false_iff, not_exists, not_and]
      intro r' hr' hp
      cases hr'
      exact absurd (Registry.allReports_eq_nil_iff.2 hp) hs

/-- **Plans and scenarios stay in step.** Whatever a run answers, one plan is recorded for each
flattened scenario, in order and under its titles. A scenario all of whose steps are settled gets a
complete plan, and any other one a partial plan; a harness that is bound has complete plans only. -/
theorem recorded_plans (fs : List Feature) (r : Registry σ) :
    List.Forall₂ (fun (p : Feature × Scenario) (q : Plan σ) =>
        q.title = ⟨p.1.title, p.2.title⟩ ∧
        ((∀ st ∈ p.2.steps, r.Settles st) → q.Complete r p.2) ∧
        ((∃ st ∈ p.2.steps, ¬ r.Settles st) → q.Partial r p.2))
      (flattened fs) (after (bindWith fs r recorder) .start).plans ∧
    ∀ (ms : List (Module σ)) (h : Harness σ), (Harness.bind fs ms).value = .ok h →
      ∃ r', (Registry.ofModules ms).value = .ok r' ∧
        List.Forall₂ (fun (p : Feature × Scenario) (q : Plan σ) =>
            q.title = ⟨p.1.title, p.2.title⟩ ∧ q.Complete r' p.2)
          (flattened fs) h.plans := by
  constructor
  · rw [plans_bindWith, List.forall₂_map_right_iff, List.forall₂_same]
    rintro ⟨f, sc⟩ -
    refine ⟨rfl, fun h => Registry.plan_complete h f, fun ⟨st, hst, hn⟩ => ?_⟩
    exact Registry.plan_partial (fun h => hn (h st hst)) f
  · intro ms h hb
    obtain ⟨r', hr', hs, hp⟩ := bind_eq_ok_iff.1 hb
    refine ⟨r', hr', ?_⟩
    rw [hp, List.forall₂_map_right_iff, List.forall₂_same]
    rintro ⟨f, sc⟩ hm
    exact ⟨rfl, Registry.plan_complete (hs (f, sc) hm) f⟩

/-- Two scenarios share their title and a text, and the second row of an outline is not matched. -/
theorem recorded_plans_of_shared_titles :
    let fs : List Feature :=
      [⟨"Users", [.ofTexts "Sign in" ["a user exists", "they sign in"],
          .ofTexts "Sign in" ["they sign in"]],
        [⟨"Rows", [.ofTexts "Rows (example 1)" ["a user exists"],
          .ofTexts "Rows (example 2)" ["nobody"]]⟩]⟩]
    let ms : List (Module (List Nat)) :=
      [[.define .given (.literal "a user exists") (.always "exists" .done)],
        [.define .when (.literal "they sign in") (.always "sign in" .done)]]
    ∃ h r', (Harness.bind fs ms).value = .ok h ∧ (Registry.ofModules ms).value = .ok r' ∧
      List.Forall₂ (fun (p : Feature × Scenario) (q : Plan (List Nat)) =>
          q.title = ⟨p.1.title, p.2.title⟩ ∧ q.Complete r' p.2)
        (flattened fs) h.plans := by
  intro fs ms
  obtain ⟨r', hr', hp⟩ := (recorded_plans fs (.empty : Registry (List Nat))).2 ms _ rfl
  exact ⟨_, r', rfl, hr', hp⟩

end Harness

end Acceptance
