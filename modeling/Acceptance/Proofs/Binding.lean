import Acceptance.Binding
import Acceptance.Proofs.Resolution

/-!
# What binding answers

Binding hands each feature to the adapter once, with a program that was fixed before, and collects
the reports of all steps that are not settled. What the adapter does has no part in the answer.

* `AdapterM.answer` and `AdapterM.after` are what a program of an adapter answers and the state that
  it leaves.
* `Registry.scenarioCalls` is the program that an adapter is handed with a feature, said without the
  bindings; `defineScenarios_eq` says that it is the one.
* `answer_bindWith` and `after_bindWith` are the answer and the state of a whole run.
-/

namespace Acceptance

variable {σ S α β : Type}

/-! ### Programs of adapters -/

namespace AdapterM

/-- What a program answers when it starts from a state. -/
def answer (x : AdapterM S α) (s : S) : α := (x.run s).value.1

/-- The state that a program leaves. -/
def after (x : AdapterM S α) (s : S) : S := (x.run s).value.2

@[simp] theorem answer_pure (a : α) (s : S) : answer (pure a : AdapterM S α) s = a := rfl

@[simp] theorem after_pure (a : α) (s : S) : after (pure a : AdapterM S α) s = s := rfl

@[simp] theorem answer_bind (x : AdapterM S α) (f : α → AdapterM S β) (s : S) :
    answer (x >>= f) s = answer (f (answer x s)) (after x s) := rfl

@[simp] theorem after_bind (x : AdapterM S α) (f : α → AdapterM S β) (s : S) :
    after (x >>= f) s = after (f (answer x s)) (after x s) := rfl

@[simp] theorem answer_lift (x : Logged α) (s : S) :
    answer (monadLift x : AdapterM S α) s = x.value := rfl

@[simp] theorem after_lift (x : Logged α) (s : S) :
    after (monadLift x : AdapterM S α) s = s := rfl

@[simp] theorem after_tell (level : Level) (text : String) (s : S) :
    after (tell level text : AdapterM S Unit) s = s := rfl

@[simp] theorem answer_get (s : S) : answer (get : AdapterM S S) s = s := rfl

@[simp] theorem after_get (s : S) : after (get : AdapterM S S) s = s := rfl

@[simp] theorem after_modify (f : S → S) (s : S) :
    after (modify f : AdapterM S Unit) s = f s := rfl

theorem after_forM_cons (f : α → AdapterM S Unit) (a : α) (as : List α) (s : S) :
    after (forM (a :: as) f) s = after (forM as f) (after (f a) s) := by
  rw [List.forM_cons, after_bind]

end AdapterM

/-! ### What an adapter is handed -/

namespace Registry

/-- The definitions of the settled steps, in the order of the steps. -/
def definitions (r : Registry σ) (sc : Scenario) : List (Registration σ) :=
  sc.steps.filterMap fun st => r.definition? st.text

/-- The program that defines the settled steps of a scenario. -/
def stepCalls (r : Registry σ) (sc : Scenario) (steps : StepBinder σ S) : AdapterM S Unit :=
  forM (r.definitions sc) fun x => steps.defineStep x.matcher x.handler

/-- The program that defines the scenarios of a feature. -/
def scenarioCalls (r : Registry σ) (f : Feature) (tests : ScenarioRegistrar σ S) :
    AdapterM S Unit :=
  forM f.flatten fun sc => tests.test sc.title (r.stepCalls sc)

/-- Hands each feature over once, with its program. -/
def handOver (r : Registry σ) (a : Adapter σ S) (fs : List Feature) : AdapterM S Unit :=
  forM fs fun f => a.defineFeature f (r.scenarioCalls f)

end Registry

theorem defineSteps_eq (r : Registry σ) (feature : String) (sc : Scenario) :
    (⟨feature, sc.title, sc.steps.length, r.boundSteps sc.steps⟩ : Binding σ).defineSteps =
      r.stepCalls (S := S) sc := by
  funext steps
  unfold Binding.defineSteps Registry.stepCalls Registry.definitions
  rw [← Registry.map_registration_boundSteps, List.forM_eq_forM, List.forM_map]

theorem defineScenarios_eq (r : Registry σ) (f : Feature) :
    defineScenarios (r.resolveFeature f).value.bindings = r.scenarioCalls (S := S) f := by
  funext tests
  rw [Registry.value_resolveFeature]
  unfold defineScenarios Registry.scenarioCalls
  rw [List.forM_eq_forM, List.forM_map]
  simp only [defineSteps_eq]

/-! ### The run -/

open AdapterM

theorem answer_bindFeatures (r : Registry σ) (a : Adapter σ S) (fs : List Feature)
    (log : DiagnosticLog) (s : S) :
    (answer (bindFeatures r a fs log) s).entries = log.entries ++ r.allReports fs := by
  -- the log holds the reports of the features before; the state is only carried along
  induction fs generalizing log s with
  | nil => simp [bindFeatures, Registry.allReports]
  | cons f fs ih =>
    unfold bindFeatures
    simp only [answer_bind, answer_lift, after_lift]
    rw [ih, DiagnosticLog.entries_extend, Registry.value_resolveFeature,
      Registry.allReports_cons, List.append_assoc]

theorem after_bindFeatures (r : Registry σ) (a : Adapter σ S) (fs : List Feature)
    (log : DiagnosticLog) (s : S) :
    after (bindFeatures r a fs log) s = after (r.handOver a fs) s := by
  induction fs generalizing log s with
  | nil => rfl
  | cons f fs ih =>
    unfold bindFeatures Registry.handOver
    simp only [after_bind, answer_lift, after_lift, after_forM_cons]
    rw [ih, defineScenarios_eq, Registry.handOver]

/-- The answer of a run depends on the features and the registry alone. -/
theorem answer_bindWith (fs : List Feature) (r : Registry σ) (a : Adapter σ S) (s : S) :
    answer (bindWith fs r a) s = conclude (r.allReports fs) := by
  rw [bindWith, answer_bind, answer_bind, answer_pure, answer_bindFeatures]
  rfl

theorem after_bindWith (fs : List Feature) (r : Registry σ) (a : Adapter σ S) (s : S) :
    after (bindWith fs r a) s = after (r.handOver a fs) s := by
  rw [bindWith, after_bind, after_bind, after_pure, after_tell, after_bindFeatures]

theorem answer_bindModules_of_ok {ms : List (Module σ)} {r : Registry σ}
    (h : (Registry.ofModules ms).value = .ok r) (fs : List Feature) (a : Adapter σ S) (s : S) :
    answer (bindModules fs ms a) s = (conclude (r.allReports fs)).mapError .unresolved := by
  unfold bindModules
  rw [answer_bind, answer_lift, after_lift, h]
  simp only [answer_bind, after_lift, answer_pure, answer_bindWith]

theorem after_bindModules_of_ok {ms : List (Module σ)} {r : Registry σ}
    (h : (Registry.ofModules ms).value = .ok r) (fs : List Feature) (a : Adapter σ S) (s : S) :
    after (bindModules fs ms a) s = after (r.handOver a fs) s := by
  unfold bindModules
  rw [after_bind, answer_lift, after_lift, h]
  simp only [after_bind, after_lift, after_pure, after_bindWith]

theorem answer_bindModules_of_error {ms : List (Module σ)} {e : MatcherError}
    (h : (Registry.ofModules ms).value = .error e) (fs : List Feature) (a : Adapter σ S) (s : S) :
    answer (bindModules fs ms a) s = .error (.definition e) := by
  unfold bindModules
  rw [answer_bind, answer_lift, after_lift, h]
  rfl

theorem after_bindModules_of_error {ms : List (Module σ)} {e : MatcherError}
    (h : (Registry.ofModules ms).value = .error e) (fs : List Feature) (a : Adapter σ S) (s : S) :
    after (bindModules fs ms a) s = s := by
  unfold bindModules
  rw [after_bind, answer_lift, after_lift, h]
  rfl

theorem conclude_eq_ok_iff {ds : List Diagnostic} : conclude ds = .ok () ↔ ds = [] := by
  cases ds with
  | nil => simp [conclude]
  | cons d ds => simp [conclude]

theorem conclude_of_ne_nil {ds : List Diagnostic} (h : ds ≠ []) : conclude ds = .error ⟨ds⟩ := by
  cases ds with
  | nil => exact absurd rfl h
  | cons d ds => rfl

theorem diagnostics_of_conclude {ds : List Diagnostic} {f : BindingFailure}
    (h : conclude ds = .error f) : f.diagnostics = ds := by
  cases ds with
  | nil => cases h
  | cons d ds =>
    cases h
    rfl

/-- **A run succeeds exactly if every step is settled.** Otherwise its failure holds the report of
each step that is not, in the order of the steps. Each report is of one of the two problems, and in
each scenario the bound steps and the reported ones split the steps between them. -/
theorem bindWith_reports_exactly (fs : List Feature) (r : Registry σ) (a : Adapter σ S) (s : S) :
    (answer (bindWith fs r a) s = .ok () ↔
      ∀ f ∈ fs, ∀ sc ∈ f.flatten, ∀ st ∈ sc.steps, r.Settles st) ∧
    (answer (bindWith fs r a) s = .ok () ∨
      answer (bindWith fs r a) s = .error ⟨r.allReports fs⟩) ∧
    (⟨r.allReports fs⟩ : BindingFailure).countOf .ambiguous +
      (⟨r.allReports fs⟩ : BindingFailure).countOf .unmatched = (r.allReports fs).length ∧
    (r.allReports fs = fs.flatMap fun f => (r.resolveFeature f).value.diagnostics) ∧
    (∀ f, (r.resolveFeature f).value.Splits r f) ∧
    ∀ st, (∃ x, r.resolveStep st = .bound x ∧ r.matching st.text = [x]) ∨
      ∃ p, r.resolveStep st = .unresolved p (r.matching st.text) ∧
        Problem.ofCount (r.matching st.text).length = some p := by
  rw [answer_bindWith]
  refine ⟨?_, ?_, ?_, Registry.allReports_eq_flatMap r fs, Registry.splits_resolveFeature r,
    Registry.resolveStep_cases r⟩
  · rw [conclude_eq_ok_iff, Registry.allReports_eq_nil_iff]
    constructor
    · intro h f hf sc hsc
      exact h (f, sc) (mem_flattened.2 ⟨hf, hsc⟩)
    · rintro h ⟨f, sc⟩ hp
      obtain ⟨hf, hsc⟩ := mem_flattened.1 hp
      exact h f hf sc hsc
  · by_cases h : r.allReports fs = []
    · exact Or.inl (conclude_eq_ok_iff.2 h)
    · exact Or.inr (conclude_of_ne_nil h)
  · exact BindingFailure.countOf_add_countOf fun d hd => Registry.problem_of_mem_allReports hd

/-- One step is bound, one is ambiguous, and one is not matched. -/
theorem bindWith_reports_two_of_three :
    (answer (bindWith
      [⟨"Users", [.ofTexts "Sign in" ["a user exists", "they sign in", "nobody"]], []⟩]
      (⟨[⟨0, .given, .literal "a user exists", .always "exists" .done⟩,
        ⟨1, .when, .literal "they sign in", .always "sign in" .done⟩,
        ⟨2, .then_, .literal "they sign in", .always "signed in" .done⟩]⟩ : Registry Unit)
      (checkOnly : Adapter Unit Unit)) () : Except BindingFailure Unit) =
    .error ⟨[⟨"Users", "Sign in", "they sign in", 1,
        [⟨1, .when, "they sign in", "sign in"⟩, ⟨2, .then_, "they sign in", "signed in"⟩]⟩,
      ⟨"Users", "Sign in", "nobody", 2, []⟩]⟩ := by
  obtain ⟨hok, hanswer, -⟩ := bindWith_reports_exactly
    [⟨"Users", [.ofTexts "Sign in" ["a user exists", "they sign in", "nobody"]], []⟩]
    (⟨[⟨0, .given, .literal "a user exists", .always "exists" .done⟩,
      ⟨1, .when, .literal "they sign in", .always "sign in" .done⟩,
      ⟨2, .then_, .literal "they sign in", .always "signed in" .done⟩]⟩ : Registry Unit)
    (checkOnly : Adapter Unit Unit) ()
  refine (hanswer.resolve_left fun h => ?_).trans rfl
  exact absurd (hok.1 h) (by decide)

end Acceptance
