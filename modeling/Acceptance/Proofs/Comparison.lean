import Acceptance.Proofs.Binding

/-!
# Registries that answer alike

Two registries need not be equal for the same to become of every step. What a run makes of a
registry are the numbers of definitions that accept a text, the definitions that are the only ones
for a text, and the reports of the other texts. Registries that are alike in these are alike in all
that is found for features.

* `Registry.Alike` is the comparison of two registries; it is made with a relation of definitions
  and a relation of diagnostics.
* `BoundStep.Alike`, `Binding.Alike` and `FeatureResolution.Alike` compare what is found with the
  same two relations, `AnswersAgree` compares answers.
* `Alike.resolveFeature` and `Alike.answer_bindWith` say that alike registries have alike results,
  and `Alike.after_bindWith` that no adapter can tell them apart.
-/

namespace Acceptance

open AdapterM

variable {σ S α β ε δ : Type}

/-- Two answers agree: both are results that are related, or both are errors that are related. -/
@[mk_iff]
inductive AnswersAgree (E : ε → δ → Prop) (A : α → β → Prop) : Except ε α → Except δ β → Prop
  | ok {a : α} {b : β} (h : A a b) : AnswersAgree E A (.ok a) (.ok b)
  | error {e : ε} {e' : δ} (h : E e e') : AnswersAgree E A (.error e) (.error e')

theorem AnswersAgree.mapError {ε' δ' : Type} {E : ε → δ → Prop} {E' : ε' → δ' → Prop}
    {A : α → β → Prop} {f : ε → ε'} {g : δ → δ'} {x : Except ε α} {y : Except δ β}
    (h : AnswersAgree E A x y) (hfg : ∀ e e', E e e' → E' (f e) (g e')) :
    AnswersAgree E' A (x.mapError f) (y.mapError g) := by
  cases h with
  | ok h => exact .ok h
  | error h => exact .error (hfg _ _ h)

theorem agree_conclude {D : Diagnostic → Diagnostic → Prop} {ds ds' : List Diagnostic}
    (h : List.Forall₂ D ds ds') :
    AnswersAgree (fun e e' => List.Forall₂ D e.diagnostics e'.diagnostics) Eq (conclude ds)
      (conclude ds') := by
  cases h with
  | nil => exact .ok rfl
  | cons hd hds => exact .error (.cons hd hds)

theorem optionRel_map {P : α → β → Prop} {R : ε → δ → Prop} {f : α → ε} {g : β → δ}
    (hfg : ∀ a b, P a b → R (f a) (g b)) {o : Option α} {o' : Option β} (h : Option.Rel P o o') :
    Option.Rel R (o.map f) (o'.map g) := by
  cases h with
  | none => exact .none
  | some h => exact .some (hfg _ _ h)

theorem forM_congr_of_forall₂ {P : α → β → Prop} {f : α → AdapterM S Unit}
    {g : β → AdapterM S Unit} {as : List α} {bs : List β} (h : List.Forall₂ P as bs)
    (hfg : ∀ a b, P a b → f a = g b) : forM as f = forM bs g := by
  induction h with
  | nil => rfl
  | cons hab _ ih => rw [List.forM_cons, List.forM_cons, hfg _ _ hab, ih]

section

variable (Q : Registration σ → Registration σ → Prop) (D : Diagnostic → Diagnostic → Prop)

/-- The same step is bound, to related definitions. -/
structure BoundStep.Alike (b b' : BoundStep σ) : Prop where
  index_eq : b.index = b'.index
  text_eq : b.text = b'.text
  registration : Q b.registration b'.registration

/-- The same steps of the same scenario are bound, to related definitions. -/
structure Binding.Alike (b b' : Binding σ) : Prop where
  feature_eq : b.feature = b'.feature
  scenario_eq : b.scenario = b'.scenario
  stepCount_eq : b.stepCount = b'.stepCount
  bound : List.Forall₂ (BoundStep.Alike Q) b.bound b'.bound

/-- The bindings are alike, and the diagnostics are related one by one. -/
structure FeatureResolution.Alike (x x' : FeatureResolution σ) : Prop where
  bindings : List.Forall₂ (Binding.Alike Q) x.bindings x'.bindings
  diagnostics : List.Forall₂ D x.diagnostics x'.diagnostics

/-- Two registries hold equally many definitions for each text; the only definitions of a text are
related, and so are the reports of a step. -/
structure Registry.Alike (r r' : Registry σ) : Prop where
  matchCount_eq : ∀ text, r.matchCount text = r'.matchCount text
  only : ∀ text x x', r.matching text = [x] → r'.matching text = [x'] → Q x x'
  report : ∀ feature scenario st, D (r.report feature scenario st) (r'.report feature scenario st)

end

namespace Registry.Alike

variable {Q : Registration σ → Registration σ → Prop} {D : Diagnostic → Diagnostic → Prop}
  {r r' : Registry σ}

/-! ### Steps and scenarios -/

theorem settles_iff (h : Alike Q D r r') (st : Step) : r.Settles st ↔ r'.Settles st := by
  unfold Settles
  rw [h.matchCount_eq]

theorem definition? (h : Alike Q D r r') (st : Step) :
    Option.Rel Q (r.definition? st.text) (r'.definition? st.text) := by
  -- the numbers of definitions agree, so that the step is settled by both registries or by none
  cases hx : r.definition? st.text with
  | none =>
    have hn : ¬ r'.Settles st := mt (h.settles_iff st).2 (definition?_eq_none_iff.1 hx)
    rw [definition?_eq_none_iff.2 hn]
    exact .none
  | some x =>
    obtain ⟨x', hx'⟩ := settles_iff_exists.1 ((h.settles_iff st).1 (settles_of_definition? hx))
    rw [definition?_eq_some_iff.2 hx']
    exact .some (h.only st.text x x' (definition?_eq_some_iff.1 hx) hx')

theorem definitions (h : Alike Q D r r') (sc : Scenario) :
    List.Forall₂ Q (r.definitions sc) (r'.definitions sc) := by
  refine List.rel_filterMap (R := Eq) ?_ (List.forall₂_refl sc.steps)
  rintro st _ rfl
  exact h.definition? st

theorem boundSteps (h : Alike Q D r r') (steps : List Step) :
    List.Forall₂ (BoundStep.Alike Q) (r.boundSteps steps) (r'.boundSteps steps) := by
  refine List.rel_filterMap (R := Eq) ?_ (List.forall₂_refl steps)
  rintro st _ rfl
  exact optionRel_map (fun x x' hx => ⟨rfl, rfl, hx⟩) (h.definition? st)

theorem reports (h : Alike Q D r r') (feature scenario : String) (steps : List Step) :
    List.Forall₂ D (r.reports feature scenario steps) (r'.reports feature scenario steps) := by
  have hf : (steps.filter fun st => ¬ r.Settles st) = steps.filter fun st => ¬ r'.Settles st :=
    List.filter_congr fun st _ => decide_eq_decide.2 (not_congr (h.settles_iff st))
  unfold Registry.reports
  rw [hf, List.forall₂_map_left_iff, List.forall₂_map_right_iff, List.forall₂_same]
  exact fun st _ => h.report feature scenario st

/-! ### Features and runs -/

theorem resolveFeature (h : Alike Q D r r') (f : Feature) :
    FeatureResolution.Alike Q D (r.resolveFeature f).value (r'.resolveFeature f).value := by
  rw [value_resolveFeature, value_resolveFeature]
  constructor
  · rw [List.forall₂_map_left_iff, List.forall₂_map_right_iff, List.forall₂_same]
    exact fun sc _ => ⟨rfl, rfl, rfl, h.boundSteps sc.steps⟩
  · refine List.rel_flatMap (R := Eq) (List.forall₂_refl f.flatten) ?_
    rintro sc _ rfl
    exact h.reports f.title sc.title sc.steps

theorem allReports (h : Alike Q D r r') (fs : List Feature) :
    List.Forall₂ D (r.allReports fs) (r'.allReports fs) := by
  rw [allReports_eq_flatMap, allReports_eq_flatMap]
  refine List.rel_flatMap (R := Eq) (List.forall₂_refl fs) ?_
  rintro f _ rfl
  exact (h.resolveFeature f).diagnostics

/-- Runs against alike registries succeed together, and fail with related diagnostics. -/
theorem answer_bindWith (h : Alike Q D r r') (fs : List Feature) (a : Adapter σ S) (s : S) :
    AnswersAgree (fun e e' => List.Forall₂ D e.diagnostics e'.diagnostics) Eq
      (answer (bindWith fs r a) s) (answer (bindWith fs r' a) s) := by
  rw [Acceptance.answer_bindWith, Acceptance.answer_bindWith]
  exact agree_conclude (h.allReports fs)

/-! ### Adapters -/

variable (h : Alike Q D r r')
  (hQ : ∀ x x', Q x x' → x.matcher = x'.matcher ∧ x.handler = x'.handler)

include h hQ

theorem stepCalls_eq (sc : Scenario) : r.stepCalls (S := S) sc = r'.stepCalls sc := by
  funext steps
  refine forM_congr_of_forall₂ (h.definitions sc) fun x x' hx => ?_
  obtain ⟨hm, hh⟩ := hQ x x' hx
  rw [hm, hh]

theorem scenarioCalls_eq (f : Feature) : r.scenarioCalls (S := S) f = r'.scenarioCalls f := by
  funext tests
  unfold Registry.scenarioCalls
  simp only [h.stepCalls_eq hQ]

/-- An adapter is handed the same programs, and so it comes to the same state. -/
theorem after_bindWith (fs : List Feature) (a : Adapter σ S) (s : S) :
    after (bindWith fs r a) s = after (bindWith fs r' a) s := by
  rw [Acceptance.after_bindWith, Acceptance.after_bindWith]
  unfold Registry.handOver
  simp only [h.scenarioCalls_eq hQ]

end Registry.Alike

end Acceptance
