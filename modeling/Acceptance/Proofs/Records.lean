import Acceptance.Proofs.Binding

/-!
# What is logged

A run writes a record for each step that is bound, for each diagnostic, and one at the end. They
tell the same as its answer: bound steps are written while a feature is resolved, its diagnostics
afterwards, and the texts of the warnings make up the message of the failure.

* `AdapterM.written` are the records that a program writes.
* `Registry.featureRecords` and `Registry.summary` say what is to be written about a feature and
  about a run; `records_checkFeatures` says that it is.
* `forall₂_warnDuplicates` says which definitions are warned about before features are resolved.
-/

namespace Acceptance

open AdapterM

variable {σ S α β : Type}

/-! ### Records of programs -/

namespace AdapterM

/-- The records that a program writes when it starts from a state. -/
def written (x : AdapterM S α) (s : S) : List LogRecord := (x.run s).records

@[simp] theorem written_pure (a : α) (s : S) : written (pure a : AdapterM S α) s = [] := rfl

@[simp] theorem written_bind (x : AdapterM S α) (f : α → AdapterM S β) (s : S) :
    written (x >>= f) s = written x s ++ written (f (answer x s)) (after x s) := rfl

@[simp] theorem written_lift (x : Logged α) (s : S) :
    written (monadLift x : AdapterM S α) s = x.records := List.append_nil _

@[simp] theorem written_tell (level : Level) (text : String) (s : S) :
    written (tell level text : AdapterM S Unit) s = [⟨level, text⟩] := rfl

theorem written_forM_eq_nil {f : α → AdapterM S Unit} (h : ∀ a s, written (f a) s = [])
    (as : List α) (s : S) : written (forM as f) s = [] := by
  induction as generalizing s with
  | nil => rfl
  | cons a as ih => rw [List.forM_cons, written_bind, h, ih, List.nil_append]

end AdapterM

theorem Logged.records_forM (f : α → Logged PUnit) (as : List α) :
    (forM as f).records = as.flatMap fun a => (f a).records := by
  induction as with
  | nil => rfl
  | cons a as ih => rw [List.forM_cons, records_bind, ih, List.flatMap_cons]

/-! ### Resolving -/

/-- The record of a bound step. -/
def BoundStep.record (scenario : String) (b : BoundStep σ) : LogRecord :=
  ⟨.debug, s!"bound step {b.index} \"{b.text}\" of \"{scenario}\" to {b.registration.matcher.text}"⟩

/-- The record of a diagnostic. -/
def Diagnostic.warning (d : Diagnostic) : LogRecord := ⟨.warn, d.text⟩

/-- The records that are warnings. -/
def warnings (rs : List LogRecord) : List LogRecord := rs.filter fun x => x.level = .warn

namespace Registry

/-- The records of a feature: one for each bound step, then one for each diagnostic. -/
def featureRecords (r : Registry σ) (f : Feature) : List LogRecord :=
  (f.flatten.flatMap fun sc => (r.boundSteps sc.steps).map (BoundStep.record sc.title)) ++
    (f.flatten.flatMap fun sc => r.reports f.title sc.title sc.steps).map Diagnostic.warning

/-- The record at the end of a run. -/
def summary (r : Registry σ) (fs : List Feature) : LogRecord :=
  ⟨.info, s!"bound {fs.length} features against {r.size} step definitions " ++
    s!"with {(r.allReports fs).length} diagnostics"⟩

theorem records_resolveSteps (r : Registry σ) (feature scenario : String) (steps : List Step) :
    (r.resolveSteps feature scenario steps).records =
      (r.boundSteps steps).map (BoundStep.record scenario) := by
  induction steps with
  | nil => rfl
  | cons st steps ih =>
    unfold resolveSteps
    cases h : r.definition? st.text with
    | some x =>
      rw [resolveStep_of_definition? h, boundSteps_cons_some h, List.map_cons, ← ih]
      simp only [Logged.records_bind, Logged.records_pure, List.append_nil]
      rfl
    | none =>
      obtain ⟨p, hp⟩ := resolveStep_of_not_settles (definition?_eq_none_iff.1 h)
      rw [hp, boundSteps_cons_none h, ← ih]
      simp only [Logged.records_bind, Logged.records_pure, List.append_nil]

theorem records_resolveScenarios (r : Registry σ) (feature : String) (scs : List Scenario) :
    (r.resolveScenarios feature scs).records =
      scs.flatMap fun sc => (r.boundSteps sc.steps).map (BoundStep.record sc.title) := by
  induction scs with
  | nil => rfl
  | cons sc scs ih =>
    simp only [resolveScenarios, resolveScenario, Logged.records_bind, Logged.records_pure,
      records_resolveSteps, ih, List.append_nil, List.flatMap_cons]

theorem records_resolveFeature (r : Registry σ) (f : Feature) :
    (r.resolveFeature f).records =
      f.flatten.flatMap fun sc => (r.boundSteps sc.steps).map (BoundStep.record sc.title) :=
  records_resolveScenarios r f.title f.flatten

/-! ### Runs that only check -/

theorem written_stepCalls (r : Registry σ) (sc : Scenario) (s : S) :
    written (r.stepCalls sc ignoreSteps) s = [] := by
  unfold stepCalls
  apply written_forM_eq_nil
  intro x s
  rfl

theorem written_scenarioCalls (r : Registry σ) (f : Feature) (s : S) :
    written (r.scenarioCalls f ignoreScenarios) s = [] := by
  unfold scenarioCalls
  apply written_forM_eq_nil
  intro sc s
  exact written_stepCalls r sc s

theorem written_bindFeatures (r : Registry σ) (fs : List Feature) (log : DiagnosticLog) (s : S) :
    written (bindFeatures r checkOnly fs log) s = fs.flatMap r.featureRecords := by
  induction fs generalizing log s with
  | nil => rfl
  | cons f fs ih =>
    -- nothing is written while the feature is handed over: its records are those of resolving it
    -- and of the log that takes its diagnostics
    have silent : ∀ s, written ((checkOnly : Adapter σ S).defineFeature f
        (defineScenarios (r.resolveFeature f).value.bindings)) s = [] := fun s => by
      rw [defineScenarios_eq]
      exact written_scenarioCalls r f s
    unfold bindFeatures
    simp only [written_bind, written_lift, answer_lift, after_lift, silent, ih,
      DiagnosticLog.records_extend, records_resolveFeature, List.flatMap_cons, List.nil_append]
    rw [← List.append_assoc, value_resolveFeature]
    rfl

theorem written_bindWith (fs : List Feature) (r : Registry σ) (s : S) :
    written (bindWith fs r checkOnly) s = fs.flatMap r.featureRecords ++ [r.summary fs] := by
  have hl : (answer (bindFeatures r checkOnly fs .empty) s).size = (r.allReports fs).length :=
    congrArg List.length (answer_bindFeatures r checkOnly fs .empty s)
  unfold bindWith
  simp only [written_bind, written_tell, written_pure, written_bindFeatures, hl, List.append_nil]
  rfl

theorem records_eq_written (fs : List Feature) (r : Registry σ) :
    (checkFeatures fs r).records = written (bindWith fs r checkOnly) () := List.append_nil _

theorem records_checkFeatures (fs : List Feature) (r : Registry σ) :
    (checkFeatures fs r).records = fs.flatMap r.featureRecords ++ [r.summary fs] := by
  rw [records_eq_written, written_bindWith]

theorem warnings_featureRecords (r : Registry σ) (f : Feature) :
    warnings (r.featureRecords f) =
      (r.resolveFeature f).value.diagnostics.map Diagnostic.warning := by
  have bound : warnings (f.flatten.flatMap fun sc =>
      (r.boundSteps sc.steps).map (BoundStep.record sc.title)) = [] := by
    refine List.filter_eq_nil_iff.2 fun x hx => ?_
    obtain ⟨sc, -, hx⟩ := List.mem_flatMap.1 hx
    obtain ⟨b, -, rfl⟩ := List.mem_map.1 hx
    simp [BoundStep.record]
  have reported (ds : List Diagnostic) :
      warnings (ds.map Diagnostic.warning) = ds.map Diagnostic.warning := by
    refine List.filter_eq_self.2 fun x hx => ?_
    obtain ⟨d, -, rfl⟩ := List.mem_map.1 hx
    simp [Diagnostic.warning]
  have parted : warnings (r.featureRecords f) = warnings (f.flatten.flatMap fun sc =>
      (r.boundSteps sc.steps).map (BoundStep.record sc.title)) ++ warnings _ :=
    List.filter_append _ _
  rw [parted, bound, reported, List.nil_append, value_resolveFeature]

/-- The warnings of a run are those of its diagnostics. -/
theorem warnings_checkFeatures (fs : List Feature) (r : Registry σ) :
    warnings (checkFeatures fs r).records = (r.allReports fs).map Diagnostic.warning := by
  have last : warnings [r.summary fs] = [] := by simp [warnings, summary]
  have parted : warnings (checkFeatures fs r).records =
      (fs.flatMap fun f => warnings (r.featureRecords f)) ++ warnings [r.summary fs] := by
    rw [records_checkFeatures, warnings, List.filter_append, List.filter_flatMap]
    rfl
  simp only [parted, last, warnings_featureRecords, List.append_nil, allReports_eq_flatMap,
    List.map_flatMap]

/-! ### Definitions with the same matcher -/

/-- One record is written for each group of definitions, under the matcher of its first member. -/
theorem forall₂_warnDuplicates (r : Registry σ) :
    List.Forall₂ (fun g w => ∃ x, g.head? = some x ∧ w = ⟨.warn, duplicateWarning x.matcher g⟩)
      r.duplicates (warnDuplicates r).records := by
  -- a group without members would write nothing, but each group has at least two
  have nonempty : ∀ g ∈ r.duplicates, g ≠ [] := by
    rintro g hg rfl
    simpa using (List.mem_filter.1 hg).2
  unfold warnDuplicates
  rw [List.forM_eq_forM, Logged.records_forM]
  revert nonempty
  induction r.duplicates with
  | nil => exact fun _ => .nil
  | cons g gs ih =>
    intro nonempty
    have rest := ih fun g' hg' => nonempty g' (List.mem_cons_of_mem g hg')
    cases g with
    | nil => exact absurd rfl (nonempty [] List.mem_cons_self)
    | cons x xs => exact .cons ⟨x, rfl, rfl⟩ rest

end Registry

theorem written_bindModules_of_ok {ms : List (Module σ)} {r : Registry σ}
    (h : (Registry.ofModules ms).value = .ok r) (fs : List Feature) :
    written (bindModules fs ms checkOnly) () =
      (Registry.ofModules ms).records ++ (warnDuplicates r).records ++
        (checkFeatures fs r).records := by
  unfold bindModules
  rw [written_bind, written_lift, answer_lift, h]
  simp only [written_bind, written_lift, written_pure, after_lift, Registry.records_eq_written,
    List.append_nil, List.append_assoc]

/-- **The log tells what the answer tells.** A check writes, feature by feature, a record for each
bound step and a warning for each diagnostic, and one record at the end. The warnings make up the
message of the failure, and there are none exactly if the check succeeds. A check against modules
writes before this what registering them writes, and a warning for each group of definitions with
the same matcher. -/
theorem checkFeatures_tells_answer (fs : List Feature) (r : Registry σ) :
    (checkFeatures fs r).records =
      (fs.flatMap fun f =>
        (f.flatten.flatMap fun sc => (r.boundSteps sc.steps).map (BoundStep.record sc.title)) ++
          (f.flatten.flatMap fun sc => r.reports f.title sc.title sc.steps).map
            Diagnostic.warning) ++
        [⟨.info, s!"bound {fs.length} features against {r.size} step definitions " ++
          s!"with {(r.allReports fs).length} diagnostics"⟩] ∧
    (∀ failure, (checkFeatures fs r).value = .error failure →
      "\n\n".intercalate ((warnings (checkFeatures fs r).records).map LogRecord.text) =
        failure.message) ∧
    (warnings (checkFeatures fs r).records = [] ↔ (checkFeatures fs r).value = .ok ()) ∧
    ∀ ms : List (Module σ), (Registry.ofModules ms).value = .ok r →
      written (bindModules fs ms checkOnly) () =
        (Registry.ofModules ms).records ++ (warnDuplicates r).records ++
          (checkFeatures fs r).records ∧
      List.Forall₂ (fun g w => ∃ x, g.head? = some x ∧ w = ⟨.warn, duplicateWarning x.matcher g⟩)
        r.duplicates (warnDuplicates r).records := by
  have hv : (checkFeatures fs r).value = conclude (r.allReports fs) :=
    answer_bindWith fs r checkOnly ()
  refine ⟨Registry.records_checkFeatures fs r, fun failure hf => ?_, ?_, fun ms h => ?_⟩
  · rw [Registry.warnings_checkFeatures, List.map_map, BindingFailure.message,
      diagnostics_of_conclude (hv.symm.trans hf)]
    rfl
  · rw [Registry.warnings_checkFeatures, List.map_eq_nil_iff, hv, conclude_eq_ok_iff]
  · exact ⟨written_bindModules_of_ok h fs, Registry.forall₂_warnDuplicates r⟩

/-- Of three steps one is bound, one is ambiguous, and one is not matched. -/
theorem checkFeatures_tells_two_problems :
    let fs : List Feature :=
      [⟨"Users", [.ofTexts "Sign in" ["a user exists", "they sign in", "nobody"]], []⟩]
    let ms : List (Module Unit) :=
      [[.define .given (.literal "a user exists") (.always "exists" .done),
        .define .when (.literal "they sign in") (.always "sign in" .done),
        .define .then_ (.literal "they sign in") (.always "signed in" .done)]]
    ∃ r, (Registry.ofModules ms).value = .ok r ∧
      "\n\n".intercalate ((warnings (checkFeatures fs r).records).map LogRecord.text) =
        (⟨[⟨"Users", "Sign in", "they sign in", 1,
          [⟨1, .when, "they sign in", "sign in"⟩, ⟨2, .then_, "they sign in", "signed in"⟩]⟩,
          ⟨"Users", "Sign in", "nobody", 2, []⟩]⟩ : BindingFailure).message ∧
      written (bindModules fs ms checkOnly) () = (Registry.ofModules ms).records ++
        [⟨.warn, "matcher they sign in is registered 2 times (#1, #2); " ++
          "steps it matches will be ambiguous"⟩] ++ (checkFeatures fs r).records := by
  intro fs ms
  refine ⟨_, rfl, (checkFeatures_tells_answer fs _).2.1 _ rfl, ?_⟩
  exact ((checkFeatures_tells_answer fs _).2.2.2 ms rfl).1

end Acceptance
