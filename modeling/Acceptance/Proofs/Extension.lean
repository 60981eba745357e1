import Acceptance.Proofs.Registration

/-!
# More definitions

Modules that are registered behind others add their definitions at the end. So a step is matched by
the definitions that matched it before, under the same positions, and then by the new ones. What
was ambiguous stays so, and only steps that the new definitions match are resolved otherwise.

* `Registry.append` is a registry with the definitions of another one behind its own;
  `matching_append` says what matches a text in it, `ofModules_append` that modules give it.
* `Resolved.Extends` says what becomes of a step when more definitions match it;
  `extends_ofFound` says that this is so for any numbers of definitions, before and now.
* `StepsResolution.Extends`, `ScenarioResolution.Extends` and `FeatureResolution.Extends` compare
  what is found for steps, scenarios and features, step by step.
-/

namespace Acceptance

open AdapterM

variable {σ S : Type}

/-! ### Registries -/

/-- The definition at a position `n` further on. -/
def Registration.shift (n : Nat) (x : Registration σ) : Registration σ := { x with id := n + x.id }

namespace Registry

/-- The registry with the definitions of another one behind its own. -/
def append (p q : Registry σ) : Registry σ :=
  ⟨p.registrations ++ q.registrations.map (Registration.shift p.size)⟩

theorem addAll_eq_append (es : List (Entry σ)) (r : Registry σ) :
    r.addAll es = r.append (empty.addAll es) := by
  have moved : (empty.addAll es).registrations.map (Registration.shift r.size) =
      es.mapIdx fun i e => e.registration (r.size + i) := by
    refine List.ext_getElem? fun i => ?_
    rw [registrations_addAll_empty, List.getElem?_map, List.getElem?_mapIdx, List.getElem?_mapIdx,
      Option.map_map]
    rfl
  unfold append
  rw [moved, ← registrations_addAll]

theorem matching_append (p q : Registry σ) (text : String) :
    (p.append q).matching text =
      p.matching text ++ (q.matching text).map (Registration.shift p.size) := by
  unfold matching append
  rw [List.filter_append, List.filter_map]
  rfl

theorem ofModules_append {ms ns : List (Module σ)} {p q : Registry σ}
    (hp : (ofModules ms).value = .ok p) (hq : (ofModules ns).value = .ok q) :
    (ofModules (ms ++ ns)).value = .ok (p.append q) := by
  obtain ⟨validM, rfl⟩ := ofModules_eq_ok_iff.1 hp
  obtain ⟨validN, rfl⟩ := ofModules_eq_ok_iff.1 hq
  rw [ofModules_eq_ok_iff, List.flatten_append]
  refine ⟨fun d hd => (List.mem_append.1 hd).elim (validM d) (validN d), ?_⟩
  rw [List.filterMap_append, addAll_append, addAll_eq_append _ (empty.addAll _)]

theorem exists_ofModules {ms : List (Module σ)} (h : ∀ m ∈ ms, ∀ d ∈ m, d.matcher.IsValid) :
    ∃ r, (ofModules ms).value = .ok r := by
  refine ⟨_, ofModules_eq_ok_iff.2 ⟨fun d hd => ?_, rfl⟩⟩
  obtain ⟨m, hm, hd⟩ := List.mem_flatten.1 hd
  exact Definition.fault?_eq_none_iff.2 (h m hm d hd)

end Registry

/-! ### Steps -/

/-- What becomes of a step that some definitions match. -/
def Resolved.ofFound : List (Registration σ) → Resolved σ
  | [] => .unresolved .unmatched []
  | [x] => .bound x
  | xs => .unresolved .ambiguous xs

theorem Registry.resolveStep_eq (r : Registry σ) (st : Step) :
    r.resolveStep st = .ofFound (r.matching st.text) := by
  unfold resolveStep
  match r.matching st.text with
  | [] => rfl
  | [x] => rfl
  | x :: y :: rest => rfl

/-- What becomes of a step, before and after the definitions `more` are found to match it too. -/
inductive Resolved.Extends (more : List (Registration σ)) : Resolved σ → Resolved σ → Prop
  | kept {x : Resolved σ} (h : more = []) : Extends more x x
  | ambiguous {found : List (Registration σ)} :
    Extends more (.unresolved .ambiguous found) (.unresolved .ambiguous (found ++ more))
  | bound {x : Registration σ} (h : more ≠ []) :
    Extends more (.bound x) (.unresolved .ambiguous (x :: more))
  | unmatched_one {y : Registration σ} (h : more = [y]) :
    Extends more (.unresolved .unmatched []) (.bound y)
  | unmatched_many (h : 2 ≤ more.length) :
    Extends more (.unresolved .unmatched []) (.unresolved .ambiguous more)

namespace Resolved

theorem extends_ofFound (found more : List (Registration σ)) :
    (ofFound found).Extends more (ofFound (found ++ more)) := by
  match found, more with
  | [], [] => exact .kept rfl
  | [], [y] => exact .unmatched_one rfl
  | [], y :: z :: rest => exact .unmatched_many (by simp)
  | [x], [] => exact .kept rfl
  | [x], y :: rest => exact .bound (by simp)
  | x :: y :: rest, more => exact .ambiguous

theorem Extends.eq_of_nil {x y : Resolved σ} (h : x.Extends [] y) : y = x := by
  cases h with
  | kept => rfl
  | ambiguous => rw [List.append_nil]
  | bound h => exact absurd rfl h
  | unmatched_one h => cases h
  | unmatched_many h => cases h

theorem Extends.bound_iff {more : List (Registration σ)} {y : Resolved σ}
    (h : (unresolved .unmatched []).Extends more y) : (∃ x, y = .bound x) ↔ more.length = 1 := by
  cases h with
  | kept h => simp [h]
  | unmatched_one h => simp [h]
  | unmatched_many h =>
    refine iff_of_false nofun ?_
    omega

/-- A step adds to the bound steps or to the diagnostics. -/
def into (feature scenario : String) (st : Step) (found : StepsResolution σ) :
    Resolved σ → StepsResolution σ
  | .bound x => { found with bound := ⟨st.index, st.text, x⟩ :: found.bound }
  | .unresolved _ xs =>
    { found with diagnostics := Registry.diagnose feature scenario st xs :: found.diagnostics }

end Resolved

theorem Registry.value_resolveSteps_cons (r : Registry σ) (feature scenario : String) (st : Step)
    (rest : List Step) :
    (r.resolveSteps feature scenario (st :: rest)).value =
      (r.resolveStep st).into feature scenario st (r.resolveSteps feature scenario rest).value := by
  rw [resolveSteps]
  cases r.resolveStep st <;> rfl

/-! ### Scenarios and features -/

section

variable (more : String → List (Registration σ))

/-- What is found for some steps, before and after more definitions match: each step adds to the
bound steps or to the diagnostics, and how it does so now follows from how it did before. -/
inductive StepsResolution.Extends (feature scenario : String) :
    List Step → StepsResolution σ → StepsResolution σ → Prop
  | nil : Extends feature scenario [] ⟨[], []⟩ ⟨[], []⟩
  | cons {st : Step} {rest : List Step} {a b : Resolved σ} {x y : StepsResolution σ}
      (h : a.Extends (more st.text) b) (hs : Extends feature scenario rest x y) :
    Extends feature scenario (st :: rest) (a.into feature scenario st x)
      (b.into feature scenario st y)

/-- What is found for a scenario, before and after more definitions match. -/
structure ScenarioResolution.Extends (f : Feature) (sc : Scenario) (x y : ScenarioResolution σ) :
    Prop where
  feature_eq : x.binding.feature = f.title ∧ y.binding.feature = f.title
  scenario_eq : x.binding.scenario = sc.title ∧ y.binding.scenario = sc.title
  stepCount_eq : x.binding.stepCount = sc.steps.length ∧ y.binding.stepCount = sc.steps.length
  steps : StepsResolution.Extends more f.title sc.title sc.steps ⟨x.binding.bound, x.diagnostics⟩
    ⟨y.binding.bound, y.diagnostics⟩

/-- What is found for a feature, before and after more definitions match: the flattened scenarios
are compared one by one. -/
def FeatureResolution.Extends (f : Feature) (x y : FeatureResolution σ) : Prop :=
  ∃ found : List (ScenarioResolution σ × ScenarioResolution σ),
    (x.bindings = found.map fun z => z.1.binding) ∧
    (x.diagnostics = found.flatMap fun z => z.1.diagnostics) ∧
    (y.bindings = found.map fun z => z.2.binding) ∧
    (y.diagnostics = found.flatMap fun z => z.2.diagnostics) ∧
    List.Forall₂ (fun sc z => z.1.Extends more f sc z.2) f.flatten found

end

namespace Registry

/-- The definitions that match a text, each at a position `n` further on. -/
def matchingFrom (n : Nat) (text : String) (q : Registry σ) : List (Registration σ) :=
  (q.matching text).map (Registration.shift n)

variable (p q : Registry σ)

theorem extends_resolveStep (st : Step) :
    (p.resolveStep st).Extends (q.matchingFrom p.size st.text) ((p.append q).resolveStep st) := by
  rw [resolveStep_eq, resolveStep_eq, matching_append]
  exact Resolved.extends_ofFound _ _

theorem extends_resolveSteps (feature scenario : String) (steps : List Step) :
    StepsResolution.Extends (q.matchingFrom p.size ·) feature scenario steps
      (p.resolveSteps feature scenario steps).value
      ((p.append q).resolveSteps feature scenario steps).value := by
  induction steps with
  | nil => exact .nil
  | cons st steps ih =>
    rw [value_resolveSteps_cons, value_resolveSteps_cons]
    exact .cons (p.extends_resolveStep q st) ih

theorem extends_resolveFeature (f : Feature) :
    (p.resolveFeature f).value.Extends (q.matchingFrom p.size ·) f
      ((p.append q).resolveFeature f).value := by
  refine ⟨f.flatten.map fun sc => ((p.resolveScenario f.title sc).value,
    ((p.append q).resolveScenario f.title sc).value), ?_, ?_, ?_, ?_, ?_⟩
  · simp only [value_resolveFeature, value_resolveScenario, List.map_map, Function.comp_def]
  · simp only [value_resolveFeature, value_resolveScenario, List.flatMap_map]
  · simp only [value_resolveFeature, value_resolveScenario, List.map_map, Function.comp_def]
  · simp only [value_resolveFeature, value_resolveScenario, List.flatMap_map]
  · rw [List.forall₂_map_right_iff, List.forall₂_same]
    exact fun sc _ => ⟨⟨rfl, rfl⟩, ⟨rfl, rfl⟩, ⟨rfl, rfl⟩, p.extends_resolveSteps q _ _ sc.steps⟩

end Registry

/-! ### Runs -/

/-- Runs of some modules find what a registry finds: an adapter is handed the bound steps of each
feature, and the answer are the diagnostics of all features. -/
def RunsOn (ms : List (Module σ)) (r : Registry σ) : Prop :=
  ∀ (S : Type) (fs : List Feature) (a : Adapter σ S) (s : S),
    answer (bindModules fs ms a) s =
        (conclude (fs.flatMap fun f => (r.resolveFeature f).value.diagnostics)).mapError
          .unresolved ∧
      after (bindModules fs ms a) s =
        after (forM fs fun f =>
          a.defineFeature f (defineScenarios (r.resolveFeature f).value.bindings)) s

theorem runsOn_of_ofModules {ms : List (Module σ)} {r : Registry σ}
    (h : (Registry.ofModules ms).value = .ok r) : RunsOn ms r := by
  intro S fs a s
  rw [answer_bindModules_of_ok h, after_bindModules_of_ok h, Registry.allReports_eq_flatMap]
  refine ⟨rfl, ?_⟩
  simp only [defineScenarios_eq, Registry.handOver]

/-- **More definitions never repair an ambiguity.** Modules that are registered behind others add
their definitions at the end, so that a step is matched by the same definitions as before and then
by the new ones, whose positions are moved on. A step that the new ones do not match is resolved as
before, an ambiguous step stays so with more candidates, a bound step that they match becomes
ambiguous, and a step without a definition is bound exactly if one of them matches. What runs find
for features is related in this way, step by step. -/
theorem resolves_with_more_modules {ms ns : List (Module σ)}
    (hm : ∀ m ∈ ms, ∀ d ∈ m, d.matcher.IsValid) (hn : ∀ m ∈ ns, ∀ d ∈ m, d.matcher.IsValid) :
    ∃ p q r, (Registry.ofModules ms).value = .ok p ∧ (Registry.ofModules ns).value = .ok q ∧
      (Registry.ofModules (ms ++ ns)).value = .ok r ∧
      (∀ text, r.matching text =
        p.matching text ++ (q.matching text).map (Registration.shift p.size)) ∧
      (∀ st, (p.resolveStep st).Extends (q.matchingFrom p.size st.text) (r.resolveStep st)) ∧
      (∀ st, q.matching st.text = [] → r.resolveStep st = p.resolveStep st) ∧
      (∀ st, p.matching st.text = [] →
        ((∃ x, r.resolveStep st = .bound x) ↔ (q.matching st.text).length = 1)) ∧
      (∀ f, (p.resolveFeature f).value.Extends (q.matchingFrom p.size ·) f
        (r.resolveFeature f).value) ∧
      RunsOn ms p ∧ RunsOn (ms ++ ns) r := by
  obtain ⟨p, hp⟩ := Registry.exists_ofModules hm
  obtain ⟨q, hq⟩ := Registry.exists_ofModules hn
  have hr := Registry.ofModules_append hp hq
  refine ⟨p, q, p.append q, hp, hq, hr, p.matching_append q, p.extends_resolveStep q,
    fun st hst => ?_, fun st hst => ?_, p.extends_resolveFeature q, runsOn_of_ofModules hp,
    runsOn_of_ofModules hr⟩
  · have kept := p.extends_resolveStep q st
    rw [Registry.matchingFrom, hst] at kept
    exact kept.eq_of_nil
  · have found := p.extends_resolveStep q st
    rw [p.resolveStep_eq, hst] at found
    rw [found.bound_iff, Registry.matchingFrom, List.length_map]

/-- The first step is not matched anew, the second becomes ambiguous and the third is bound, to a
definition that is the second one of its own module and the fourth of all. -/
theorem resolves_with_more_modules_of_users :
    let ms : List (Module Unit) := [[.define .given (.literal "a user") (.always "user" .done),
      .define .when (.literal "they sign in") (.always "sign in" .done)]]
    let ns : List (Module Unit) :=
      [[.define .when (.literal "they sign in") (.always "enter" .done),
        .define .when (.literal "they sign out") (.always "leave" .done)]]
    (∀ m ∈ ms, ∀ d ∈ m, d.matcher.IsValid) ∧ (∀ m ∈ ns, ∀ d ∈ m, d.matcher.IsValid) ∧
      ∃ p r, (Registry.ofModules ms).value = .ok p ∧ (Registry.ofModules (ms ++ ns)).value = .ok r ∧
        r.resolveStep ⟨"a user", 0⟩ = p.resolveStep ⟨"a user", 0⟩ ∧
        (r.matching "they sign in").map Registration.id = [1, 2] ∧
        (∃ x, r.resolveStep ⟨"they sign out", 2⟩ = .bound x) ∧
        (r.matching "they sign out").map Registration.id = [3] := by
  intro ms ns
  have validM : ∀ m ∈ ms, ∀ d ∈ m, d.matcher.IsValid := by
    simp [ms, Definition.matcher, MatcherSource.IsValid]
  have validN : ∀ m ∈ ns, ∀ d ∈ m, d.matcher.IsValid := by
    simp [ns, Definition.matcher, MatcherSource.IsValid]
  obtain ⟨p, q, r, hp, hq, hr, matching, -, kept, bound, -⟩ :=
    resolves_with_more_modules validM validN
  cases hp
  cases hq
  refine ⟨validM, validN, _, r, rfl, hr, kept _ rfl, ?_, (bound _ rfl).2 rfl, ?_⟩
  · rw [matching]
    rfl
  · rw [matching]
    rfl

end Acceptance
