import Acceptance.Proofs.Plans
import Acceptance.Proofs.Recording

/-!
# What the harness runs

A bound harness runs the definitions of the steps of each scenario, in the order of the steps and
from an empty context of the scenario's own. How a scenario ends is told by its steps, the registry
and nothing else.

* `Registry.Succeeds` says that the definitions of some steps succeed one after the other,
  `Registry.Stops` that they do up to one that ends with an error.
* `outcome_of_succeeds` and `outcome_of_stops` are the outcomes of planned steps in the two cases,
  and `succeeds_or_stops` says that there is no third.
* `ScenarioRecord.Reports` is the record of a scenario, `Registry.reports_record` says that it is
  the one that is kept, and `bound_harness_runs` says so of whole runs.
-/

namespace Acceptance

variable {σ : Type}

/-! ### Steps and their definitions -/

namespace Registry

/-- The only definitions of some steps all succeed, one after the other, and lead from one context
to another. -/
inductive Succeeds (r : Registry σ) : List Step → σ → σ → Prop
  | nil (c : σ) : Succeeds r [] c c
  | cons {st : Step} {rest : List Step} {x : Registration σ} {c d e : σ}
      (hx : r.matching st.text = [x]) (hr : x.handler.run c = (.done, d))
      (h : Succeeds r rest d e) : Succeeds r (st :: rest) c e

/-- The only definitions of some steps succeed up to the step at a position, whose definition ends
with an error. -/
inductive Stops (r : Registry σ) : List Step → σ → Nat → Step → StepError → Prop
  | here {st : Step} {rest : List Step} {x : Registration σ} {c : σ} {e : StepError}
      (hx : r.matching st.text = [x]) (he : (x.handler.run c).1.error? = some e) :
      Stops r (st :: rest) c 0 st e
  | there {st st' : Step} {rest : List Step} {x : Registration σ} {c d : σ} {k : Nat}
      {e : StepError} (hx : r.matching st.text = [x]) (hr : x.handler.run c = (.done, d))
      (h : Stops r rest d k st' e) : Stops r (st :: rest) c (k + 1) st' e

theorem succeeds_or_stops {r : Registry σ} {steps : List Step} (h : ∀ st ∈ steps, r.Settles st)
    (c : σ) : (∃ d, r.Succeeds steps c d) ∨ ∃ k st e, r.Stops steps c k st e := by
  -- the first step decides, unless it succeeds: then the others go on from the context it leaves
  induction steps generalizing c with
  | nil => exact Or.inl ⟨c, .nil c⟩
  | cons st steps ih =>
    obtain ⟨x, hx⟩ := settles_iff_exists.1 (h st List.mem_cons_self)
    have hrest : ∀ st' ∈ steps, r.Settles st' := fun st' hm => h st' (List.mem_cons_of_mem st hm)
    cases hr : x.handler.run c with
    | mk o d =>
      cases ho : o.error? with
      | some e => exact Or.inr ⟨0, st, e, .here hx (by rw [hr, ho])⟩
      | none =>
        obtain rfl := Ending.error?_eq_none_iff.1 ho
        rcases ih hrest d with ⟨d', hd⟩ | ⟨k, st', e, hk⟩
        · exact Or.inl ⟨d', .cons hx hr hd⟩
        · exact Or.inr ⟨k + 1, st', e, .there hx hr hk⟩

/-- Where steps stop, the steps before succeed. -/
theorem stops_iff {r : Registry σ} {steps : List Step} {c : σ} {k : Nat} {st : Step}
    {e : StepError} :
    r.Stops steps c k st e ↔
      steps[k]? = some st ∧ ∃ d x, r.Succeeds (steps.take k) c d ∧ r.matching st.text = [x] ∧
        (x.handler.run d).1.error? = some e := by
  constructor
  · intro h
    induction h with
    | here hx he => exact ⟨rfl, _, _, .nil _, hx, he⟩
    | there hx hr _ ih =>
      obtain ⟨hk, d, y, hd, hy, he⟩ := ih
      exact ⟨hk, d, y, .cons hx hr hd, hy, he⟩
  · rintro ⟨hk, d, x, hd, hx, he⟩
    -- each step before the position is one that succeeds, so the position goes down with the steps
    induction steps generalizing c k with
    | nil => cases hk
    | cons st' steps ih =>
      cases k with
      | zero =>
        cases hd
        cases hk
        exact .here hx he
      | succ k =>
        cases hd with
        | cons hy hr hd => exact .there hy hr (ih hk hd)

end Registry

/-! ### Planned steps -/

theorem PlannedStep.Runs.eq_of_matching {r : Registry σ} {text : Step → Matcher → String}
    {st : Step} {q : PlannedStep σ} {x : Registration σ} (h : q.Runs r text st)
    (hx : r.matching st.text = [x]) : q = ⟨text st x.matcher, x.matcher, x.handler⟩ := by
  obtain ⟨y, hy, rfl⟩ := h
  rw [hx, List.singleton_inj] at hy
  rw [hy]

section Planned

variable {r : Registry σ} {steps : List Step} {qs : List (PlannedStep σ)}

theorem outcome_of_succeeds (h : List.Forall₂ (PlannedStep.Runs r fun st _ => st.text) steps qs)
    {c d : σ} (hs : r.Succeeds steps c d) (i : Nat) :
    (PlannedStep.sequence i qs c).outcome = .passed := by
  induction hs generalizing i qs with
  | nil =>
    cases h
    rfl
  | cons hx hr _ ih =>
    cases h with
    | cons hq hqs =>
      obtain rfl := hq.eq_of_matching hx
      rw [PlannedStep.sequence_cons_of_done hr]
      exact ih hqs (i + 1)

theorem outcome_of_stops (h : List.Forall₂ (PlannedStep.Runs r fun st _ => st.text) steps qs)
    {c : σ} {k : Nat} {st : Step} {e : StepError} (hs : r.Stops steps c k st e) (i : Nat) :
    (PlannedStep.sequence i qs c).outcome = Outcome.stopped (i + k) st.text e := by
  induction hs generalizing i qs with
  | here hx he =>
    cases h with
    | cons hq hqs =>
      obtain rfl := hq.eq_of_matching hx
      rw [PlannedStep.sequence_cons_of_error he]
      rfl
  | @there _ _ _ _ _ _ k _ hx hr _ ih =>
    cases h with
    | cons hq hqs =>
      obtain rfl := hq.eq_of_matching hx
      rw [PlannedStep.sequence_cons_of_done hr, show i + (k + 1) = i + 1 + k by omega]
      exact ih hqs (i + 1)

end Planned

/-! ### Records -/

theorem Scenario.index_of_getElem? {sc : Scenario} (h : sc.IsIndexed) {k : Nat} {st : Step}
    (hk : sc.steps[k]? = some st) : st.index = k := by
  have hi : (sc.steps.map Step.index)[k]? = some st.index := by rw [List.getElem?_map, hk]; rfl
  have hlt : k < sc.steps.length := (List.getElem?_eq_some_iff.1 hk).1
  rw [h, List.getElem?_range hlt, Option.some.injEq] at hi
  exact hi.symm

theorem Scenario.mem_and_index_iff {sc : Scenario} (h : sc.IsIndexed) {k : Nat} {st : Step} :
    st ∈ sc.steps ∧ st.index = k ↔ sc.steps[k]? = some st := by
  constructor
  · rintro ⟨hm, rfl⟩
    obtain ⟨i, hi⟩ := List.mem_iff_getElem?.1 hm
    rwa [index_of_getElem? h hi]
  · intro hk
    exact ⟨List.mem_of_getElem? hk, index_of_getElem? h hk⟩

/-- A record tells how the definitions of the steps of a scenario end when they are run in order
from the empty context: all succeed, or the first that does not fails or asks to skip. -/
structure ScenarioRecord.Reports [EmptyCollection σ] (r : Registry σ) (f : Feature) (sc : Scenario)
    (rec : ScenarioRecord) : Prop where
  title_eq : rec.title = ⟨f.title, sc.title⟩
  passed_iff : rec.outcome = .passed ↔ ∃ d, r.Succeeds sc.steps ∅ d
  failed_iff : ∀ k t e, rec.outcome = .failed k t e ↔
    ∃ st ∈ sc.steps, st.index = k ∧ st.text = t ∧
      ∃ d x, r.Succeeds (sc.steps.take k) ∅ d ∧ r.matching t = [x] ∧ (x.handler.run d).1.Fails e
  skipped_iff : ∀ m, rec.outcome = .skipped m ↔
    ∃ k st, sc.steps[k]? = some st ∧
      ∃ d x, r.Succeeds (sc.steps.take k) ∅ d ∧ r.matching st.text = [x] ∧
        (x.handler.run d).1 = .error (.skipped m)

namespace Registry

variable [EmptyCollection σ]

/-- The record of a scenario. -/
def record (r : Registry σ) (f : Feature) (sc : Scenario) : ScenarioRecord :=
  ⟨⟨f.title, sc.title⟩, (r.plan f sc).run.outcome⟩

theorem outcome_record {r : Registry σ} {sc : Scenario} (h : ∀ st ∈ sc.steps, r.Settles st)
    (f : Feature) :
    ((∃ d, r.Succeeds sc.steps ∅ d) ∧ (r.record f sc).outcome = .passed) ∨
      ∃ k st e, r.Stops sc.steps ∅ k st e ∧
        (r.record f sc).outcome = Outcome.stopped k st.text e := by
  have hp := plan_complete h f
  rcases succeeds_or_stops h (∅ : σ) with ⟨d, hd⟩ | ⟨k, st, e, hk⟩
  · exact Or.inl ⟨⟨d, hd⟩, outcome_of_succeeds hp hd 0⟩
  · have ho := outcome_of_stops hp hk 0
    rw [Nat.zero_add] at ho
    exact Or.inr ⟨k, st, e, hk, ho⟩

theorem reports_record {r : Registry σ} {sc : Scenario} (hi : sc.IsIndexed)
    (h : ∀ st ∈ sc.steps, r.Settles st) (f : Feature) : (r.record f sc).Reports r f sc where
  title_eq := rfl
  passed_iff := by
    constructor
    · intro ho
      rcases outcome_record h f with ⟨hd, -⟩ | ⟨k, st, e, -, hs⟩
      · exact hd
      · exact absurd (hs.symm.trans ho) (Outcome.stopped_ne_passed k st.text e)
    · rintro ⟨d, hd⟩
      exact outcome_of_succeeds (plan_complete h f) hd 0
  failed_iff := by
    intro k t e
    constructor
    · intro ho
      rcases outcome_record h f with ⟨-, hp⟩ | ⟨k', st, e', hk, hs⟩
      · cases hp.symm.trans ho
      · obtain ⟨rfl, rfl, rfl, he⟩ := Outcome.stopped_eq_failed_iff.1 (hs.symm.trans ho)
        obtain ⟨hst, d, x, hd, hx, hx'⟩ := stops_iff.1 hk
        obtain ⟨hm, hix⟩ := (Scenario.mem_and_index_iff hi).2 hst
        exact ⟨st, hm, hix, rfl, d, x, hd, hx, Ending.fails_iff.2 ⟨hx', he⟩⟩
    · rintro ⟨st, hm, hix, rfl, d, x, hd, hx, hf⟩
      obtain ⟨hx', he⟩ := Ending.fails_iff.1 hf
      have hst := (Scenario.mem_and_index_iff hi).1 ⟨hm, hix⟩
      have hs := outcome_of_stops (plan_complete h f) (stops_iff.2 ⟨hst, d, x, hd, hx, hx'⟩) 0
      rw [Nat.zero_add] at hs
      exact hs.trans (Outcome.stopped_eq_failed_iff.2 ⟨rfl, rfl, rfl, he⟩)
  skipped_iff := by
    intro m
    constructor
    · intro ho
      rcases outcome_record h f with ⟨-, hp⟩ | ⟨k, st, e, hk, hs⟩
      · cases hp.symm.trans ho
      · obtain rfl := Outcome.stopped_eq_skipped_iff.1 (hs.symm.trans ho)
        obtain ⟨hst, d, x, hd, hx, hx'⟩ := stops_iff.1 hk
        exact ⟨k, st, hst, d, x, hd, hx, Ending.error?_eq_some_skipped_iff.1 hx'⟩
    · rintro ⟨k, st, hst, d, x, hd, hx, hx'⟩
      have he := Ending.error?_eq_some_skipped_iff.2 hx'
      have hs := outcome_of_stops (plan_complete h f) (stops_iff.2 ⟨hst, d, x, hd, hx, he⟩) 0
      exact hs.trans (Outcome.stopped_eq_skipped_iff.2 rfl)

end Registry

namespace Harness

variable [EmptyCollection σ]

theorem value_runPlans (ps : List (Plan σ)) :
    (runPlans ps).value = ps.map fun p => (p.title, p.run) := by
  induction ps with
  | nil => rfl
  | cons p ps ih => simp only [runPlans, Logged.value_bind, Logged.value_pure, ih, List.map_cons]

/-- A bound harness keeps one record for each flattened scenario. -/
theorem records_runAll {fs : List Feature} {h : Harness σ} {r : Registry σ}
    (hp : h.plans = (flattened fs).map fun p => r.plan p.1 p.2) :
    (summarize h.runAll.value).records = (flattened fs).map fun p => r.record p.1 p.2 := by
  simp only [runAll, value_runPlans, summarize, hp, List.map_map]
  rfl

/-- **A bound harness runs the definitions of the steps.** It keeps one record for each flattened
scenario, in order. Each record tells how the only definitions of the steps end and is the record of
a run of that scenario alone. The last part, that runs after each other have the same records, is
true of anything that is a function of the plans: a run leaves nothing behind that the next one
could see. -/
theorem bound_harness_runs {fs : List Feature} {ms : List (Module σ)} {h : Harness σ}
    (hi : ∀ f ∈ fs, ∀ sc ∈ f.flatten, sc.IsIndexed) (hb : (Harness.bind fs ms).value = .ok h) :
    ∃ r, (Registry.ofModules ms).value = .ok r ∧
      List.Forall₂ (fun (p : Feature × Scenario) (rec : ScenarioRecord) =>
          rec.Reports r p.1 p.2 ∧
          ∃ h', (Harness.bind [⟨p.1.title, [p.2], []⟩] ms).value = .ok h' ∧
            (summarize h'.runAll.value).records = [rec])
        (flattened fs) (summarize h.runAll.value).records ∧
      ∀ n, ((List.replicate n h).mapM runAll).value = List.replicate n h.runAll.value := by
  obtain ⟨r, hr, hs, hp⟩ := bind_eq_ok_iff.1 hb
  refine ⟨r, hr, ?_, ?_⟩
  · rw [records_runAll hp, List.forall₂_map_right_iff, List.forall₂_same]
    rintro ⟨f, sc⟩ hm
    obtain ⟨hf, hsc⟩ := mem_flattened.1 hm
    refine ⟨Registry.reports_record (hi f hf sc hsc) (hs (f, sc) hm) f, ⟨[r.plan f sc]⟩, ?_, ?_⟩
    · refine bind_eq_ok_iff.2 ⟨r, hr, ?_, rfl⟩
      intro p hp'
      obtain rfl := List.mem_singleton.1 hp'
      exact hs (f, sc) hm
    · simp only [runAll, value_runPlans, summarize]
      rfl
  · intro n
    induction n with
    | zero => rfl
    | succ n ih =>
      rw [List.replicate_succ, List.mapM_cons]
      simp only [Logged.value_bind, Logged.value_pure, ih, List.replicate_succ]

/-- The first step puts a number into the context, and the second step fails for that number. -/
theorem bound_harness_stops_at_payment :
    let fs : List Feature := [⟨"Accounts", [.ofTexts "Pay" ["an account", "I pay"]], []⟩]
    let ms : List (Module (List Nat)) :=
      [[.define .given (.literal "an account") ⟨"open", fun c => (.done, 5 :: c)⟩,
        .define .when (.literal "I pay")
          ⟨"pay", fun c => (if c = [5] then .error (.failed "not enough") else .done, c)⟩]]
    (∀ f ∈ fs, ∀ sc ∈ f.flatten, sc.IsIndexed) ∧
      ∃ h, (Harness.bind fs ms).value = .ok h ∧
        ∃ rec ∈ (summarize h.runAll.value).records,
          rec.outcome = .failed 1 "I pay" (.failed "not enough") := by
  intro fs ms
  have hi : ∀ f ∈ fs, ∀ sc ∈ f.flatten, sc.IsIndexed := by decide
  refine ⟨hi, _, rfl, ?_⟩
  have hb : (Harness.bind fs ms).value = .ok _ := rfl
  obtain ⟨r, hr, hf, -⟩ := bound_harness_runs hi hb
  cases hr
  cases hf with
  | cons hrec _ =>
    exact ⟨_, List.mem_cons_self, (hrec.1.failed_iff _ _ _).2
      ⟨⟨"I pay", 1⟩, by decide, rfl, rfl, [5], _, .cons rfl rfl (.nil _), rfl, rfl, rfl⟩⟩

end Harness

end Acceptance
