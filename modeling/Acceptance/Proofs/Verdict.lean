import Acceptance.Proofs.Comparison
import Acceptance.Summary
import Mathlib.Data.List.Perm.Basic

/-!
# The verdict on a run

A run is judged by its records: one that failed makes the run fail, whatever else happened, and one
that was skipped does so if skipped scenarios count as failures. The judgement looks at the records
several times, for the first failure and for the numbers of each kind of outcome.

* `ScenarioRecord.Failed` and `ScenarioRecord.Skipped` are the two kinds of records that matter.
* `Summary.passed_add_failed_add_skipped` says that the three numbers account for every record.
* `Summary.verdict_eq_ok_iff` and `Summary.verdict_eq_error_iff` say which verdict is given, and
  `Summary.verdict_of_perm` what is left of it when the records come in another order.
-/

namespace Acceptance

/-! ### Kinds of records -/

namespace ScenarioRecord

/-- The scenario failed. -/
def Failed (r : ScenarioRecord) : Prop := ∃ k t e, r.outcome = .failed k t e

/-- The scenario was skipped. -/
def Skipped (r : ScenarioRecord) : Prop := ∃ m, r.outcome = .skipped m

theorem isPassed_iff {r : ScenarioRecord} : r.outcome.isPassed = true ↔ r.outcome = .passed := by
  cases r.outcome <;> simp [Outcome.isPassed]

theorem isFailed_iff {r : ScenarioRecord} : r.outcome.isFailed = true ↔ r.Failed := by
  unfold Failed
  cases r.outcome <;> simp [Outcome.isFailed]

theorem isSkipped_iff {r : ScenarioRecord} : r.outcome.isSkipped = true ↔ r.Skipped := by
  unfold Skipped
  cases r.outcome <;> simp [Outcome.isSkipped]

instance : DecidablePred Failed := fun _ => decidable_of_iff _ isFailed_iff

instance : DecidablePred Skipped := fun _ => decidable_of_iff _ isSkipped_iff

theorem outcome_eq_passed_iff {r : ScenarioRecord} :
    r.outcome = .passed ↔ ¬ r.Failed ∧ ¬ r.Skipped := by
  unfold Failed Skipped
  cases r.outcome <;> simp

end ScenarioRecord

/-! ### Numbers of records -/

namespace Summary

theorem countP_eq_length_filter_of_iff {α : Type} {p : α → Bool} {P : α → Prop} [DecidablePred P]
    (h : ∀ a, p a = true ↔ P a) (as : List α) : as.countP p = (as.filter fun a => P a).length := by
  have hp : p = fun a => decide (P a) := by
    funext a
    rw [Bool.eq_iff_iff, h, decide_eq_true_eq]
  rw [hp, List.countP_eq_length_filter]

theorem passed_eq (s : Summary) :
    s.passed = (s.records.filter fun r => r.outcome = .passed).length :=
  countP_eq_length_filter_of_iff (fun _ => ScenarioRecord.isPassed_iff) s.records

theorem failed_eq (s : Summary) : s.failed = (s.records.filter fun r => r.Failed).length :=
  countP_eq_length_filter_of_iff (fun _ => ScenarioRecord.isFailed_iff) s.records

theorem skipped_eq (s : Summary) : s.skipped = (s.records.filter fun r => r.Skipped).length :=
  countP_eq_length_filter_of_iff (fun _ => ScenarioRecord.isSkipped_iff) s.records

theorem passed_add_failed_add_skipped (s : Summary) :
    s.passed + s.failed + s.skipped = s.records.length := by
  unfold passed failed skipped
  induction s.records with
  | nil => rfl
  | cons r rs ih =>
    have once : (if r.outcome.isPassed then 1 else 0) + (if r.outcome.isFailed then 1 else 0) +
        (if r.outcome.isSkipped then 1 else 0) = 1 := by
      cases r.outcome <;> rfl
    simp only [List.countP_cons, List.length_cons]
    omega

theorem skipped_pos_iff {s : Summary} : 0 < s.skipped ↔ ∃ r ∈ s.records, r.Skipped := by
  rw [skipped, List.countP_pos_iff]
  simp only [ScenarioRecord.isSkipped_iff]

/-! ### The verdict -/

theorem find?_failed_eq_none_iff {s : Summary} :
    (s.records.find? fun r => r.outcome.isFailed) = none ↔ ∀ r ∈ s.records, ¬ r.Failed := by
  rw [List.find?_eq_none]
  simp only [ScenarioRecord.isFailed_iff]

theorem find?_failed_eq_some_iff {s : Summary} {r : ScenarioRecord} :
    (s.records.find? fun r => r.outcome.isFailed) = some r ↔
      r.Failed ∧ ∃ before after, s.records = before ++ r :: after ∧
        ∀ q ∈ before, ¬ q.Failed := by
  rw [List.find?_eq_some_iff_append, ScenarioRecord.isFailed_iff]
  simp only [Bool.not_eq_true', ← Bool.not_eq_true, ScenarioRecord.isFailed_iff]

theorem verdict_of_find?_failed {s : Summary} {r : ScenarioRecord}
    (h : (s.records.find? fun r => r.outcome.isFailed) = some r) (b : Bool) :
    s.verdict b = .error (.scenariosFailed s.failed s.records.length r.title.scenario) := by
  unfold verdict
  rw [h]
  rfl

/-- Without failures, the skipped scenarios and the policy decide. -/
theorem verdict_of_none_failed {s : Summary} (h : ∀ r ∈ s.records, ¬ r.Failed) (b : Bool) :
    s.verdict b = if b = true ∧ 0 < s.skipped then .error (.skippedDisallowed s.skipped)
      else .ok s := by
  unfold verdict
  rw [find?_failed_eq_none_iff.2 h]
  simp

theorem verdict_eq_ok_iff {s x : Summary} {b : Bool} :
    s.verdict b = .ok x ↔
      x = s ∧ (∀ r ∈ s.records, ¬ r.Failed) ∧ (b = false ∨ ∀ r ∈ s.records, ¬ r.Skipped) := by
  have policy : ¬ (b = true ∧ 0 < s.skipped) ↔
      b = false ∨ ∀ r ∈ s.records, ¬ r.Skipped := by
    rw [skipped_pos_iff]
    cases b <;> simp
  rw [← policy]
  cases hf : s.records.find? fun r => r.outcome.isFailed with
  | some r =>
    rw [verdict_of_find?_failed hf]
    obtain ⟨hr, before, after, hs, -⟩ := find?_failed_eq_some_iff.1 hf
    refine iff_of_false nofun fun h => h.2.1 r ?_ hr
    rw [hs]
    exact List.mem_append_right _ List.mem_cons_self
  | none =>
    have none_failed := find?_failed_eq_none_iff.1 hf
    rw [verdict_of_none_failed none_failed]
    split
    · next hp => exact iff_of_false nofun fun h => h.2.2 hp
    · next hp =>
      constructor
      · intro h
        exact ⟨(Except.ok.inj h).symm, none_failed, hp⟩
      · rintro ⟨rfl, -, -⟩
        rfl

/-- A run fails for its first failure if there is one, and otherwise for its skipped scenarios. -/
theorem verdict_eq_error_iff {s : Summary} {b : Bool} {e : RunFailure} :
    s.verdict b = .error e ↔
      (∃ before r after, s.records = before ++ r :: after ∧ (∀ q ∈ before, ¬ q.Failed) ∧
        r.Failed ∧ e = .scenariosFailed s.failed s.records.length r.title.scenario) ∨
      ((∀ r ∈ s.records, ¬ r.Failed) ∧ b = true ∧ 0 < s.skipped ∧
        e = .skippedDisallowed s.skipped) := by
  cases hf : s.records.find? fun r => r.outcome.isFailed with
  | some r =>
    have first := find?_failed_eq_some_iff.1 hf
    obtain ⟨hr, before, after, hs, hb⟩ := first
    rw [verdict_of_find?_failed hf]
    constructor
    · intro h
      exact Or.inl ⟨before, r, after, hs, hb, hr, (Except.error.inj h).symm⟩
    · rintro (⟨before', r', after', hs', hb', hr', rfl⟩ | ⟨hn, -⟩)
      · -- there is only one first failure
        have hf' := find?_failed_eq_some_iff.2 ⟨hr', before', after', hs', hb'⟩
        rw [Option.some.inj (hf.symm.trans hf')]
      · exact absurd hf (by rw [find?_failed_eq_none_iff.2 hn]; nofun)
  | none =>
    have none_failed := find?_failed_eq_none_iff.1 hf
    rw [verdict_of_none_failed none_failed]
    constructor
    · intro h
      split at h
      · next hp => exact Or.inr ⟨none_failed, hp.1, hp.2, (Except.error.inj h).symm⟩
      · cases h
    · rintro (⟨before, r, after, hs, -, hr, -⟩ | ⟨-, hb, hp, rfl⟩)
      · exact absurd hr (none_failed r (hs ▸ List.mem_append_right _ List.mem_cons_self))
      · rw [if_pos ⟨hb, hp⟩]

end Summary

/-! ### The order of the records -/

/-- Two runs fail for the same reason; another failure may be named as the first one. -/
inductive RunFailure.SameButFirst : RunFailure → RunFailure → Prop
  | scenariosFailed (failed total : Nat) (first first' : String) :
    SameButFirst (.scenariosFailed failed total first) (.scenariosFailed failed total first')
  | skippedDisallowed (skipped : Nat) :
    SameButFirst (.skippedDisallowed skipped) (.skippedDisallowed skipped)

namespace Summary

variable {s s' : Summary} (h : s.records.Perm s'.records)

include h

theorem numbers_of_perm :
    s.passed = s'.passed ∧ s.failed = s'.failed ∧ s.skipped = s'.skipped ∧ s.size = s'.size :=
  ⟨h.countP_eq _, h.countP_eq _, h.countP_eq _, h.length_eq⟩

theorem verdict_of_perm (b : Bool) :
    AnswersAgree RunFailure.SameButFirst (fun x x' => x = s ∧ x' = s') (s.verdict b)
      (s'.verdict b) := by
  obtain ⟨-, failed_eq, skipped_eq, size_eq⟩ := numbers_of_perm h
  have same : (∀ r ∈ s.records, ¬ r.Failed) ↔ ∀ r ∈ s'.records, ¬ r.Failed :=
    forall_congr' fun r => by rw [h.mem_iff]
  by_cases none_failed : ∀ r ∈ s.records, ¬ r.Failed
  · rw [verdict_of_none_failed none_failed, verdict_of_none_failed (same.1 none_failed), skipped_eq]
    split
    · exact .error (.skippedDisallowed _)
    · exact .ok ⟨rfl, rfl⟩
  · obtain ⟨r, hr⟩ := Option.ne_none_iff_exists'.1 (mt find?_failed_eq_none_iff.1 none_failed)
    obtain ⟨r', hr'⟩ :=
      Option.ne_none_iff_exists'.1 (mt find?_failed_eq_none_iff.1 (mt same.2 none_failed))
    rw [verdict_of_find?_failed hr, verdict_of_find?_failed hr', failed_eq]
    change s.records.length = s'.records.length at size_eq
    rw [size_eq]
    exact .error (.scenariosFailed _ _ _ _)

end Summary

/-- **The verdict on a run.** Every record counts as passed, failed or skipped. A run is a success,
and its summary is handed back as it is, exactly if no scenario failed and, where skipped scenarios
make a run fail, none was skipped. Otherwise it fails: for its failures, of which the earliest is
named, if there are any, and else for the skipped scenarios, of which there is one at least. A run
that succeeds although skipped scenarios make it fail has passed scenarios only, and succeeds under
either policy. In another order the records give the same numbers and the same verdict, but for
the failure that is named. -/
theorem verdict_on_records (s : Summary) (b : Bool) :
    (s.passed + s.failed + s.skipped = s.records.length ∧
      s.passed = (s.records.filter fun r => r.outcome = .passed).length ∧
      s.failed = (s.records.filter fun r => r.Failed).length ∧
      s.skipped = (s.records.filter fun r => r.Skipped).length) ∧
    (∀ x, s.verdict b = .ok x ↔
      x = s ∧ (∀ r ∈ s.records, ¬ r.Failed) ∧ (b = false ∨ ∀ r ∈ s.records, ¬ r.Skipped)) ∧
    (∀ e, s.verdict b = .error e ↔
      (∃ before r after, s.records = before ++ r :: after ∧ (∀ q ∈ before, ¬ q.Failed) ∧
        r.Failed ∧ e = .scenariosFailed s.failed s.records.length r.title.scenario) ∨
      ((∀ r ∈ s.records, ¬ r.Failed) ∧ b = true ∧ 0 < s.skipped ∧
        e = .skippedDisallowed s.skipped)) ∧
    (∀ x, s.verdict true = .ok x →
      s.verdict false = .ok x ∧ ∀ r ∈ s.records, r.outcome = .passed) ∧
    ∀ s' : Summary, s.records.Perm s'.records →
      (s.passed = s'.passed ∧ s.failed = s'.failed ∧ s.skipped = s'.skipped ∧
        s.size = s'.size) ∧
      AnswersAgree RunFailure.SameButFirst (fun x x' => x = s ∧ x' = s') (s.verdict b)
        (s'.verdict b) := by
  refine ⟨⟨s.passed_add_failed_add_skipped, s.passed_eq, s.failed_eq, s.skipped_eq⟩,
    fun x => Summary.verdict_eq_ok_iff, fun e => Summary.verdict_eq_error_iff, fun x hx => ?_,
    fun s' h => ⟨Summary.numbers_of_perm h, Summary.verdict_of_perm h b⟩⟩
  obtain ⟨rfl, none_failed, policy⟩ := Summary.verdict_eq_ok_iff.1 hx
  have none_skipped := policy.resolve_left (by decide)
  refine ⟨Summary.verdict_eq_ok_iff.2 ⟨rfl, none_failed, Or.inl rfl⟩, fun r hr => ?_⟩
  exact ScenarioRecord.outcome_eq_passed_iff.2 ⟨none_failed r hr, none_skipped r hr⟩

/-- A skipped scenario comes before the failures, and the policy is against it; still the first of
the failures is named, and in the other order it is the other one. -/
theorem verdict_on_skipped_and_failed :
    let skip : ScenarioRecord := ⟨⟨"Bank", "Loan"⟩, .skipped none⟩
    let pay : ScenarioRecord := ⟨⟨"Bank", "Pay"⟩, .failed 1 "I pay" (.failed "not enough")⟩
    let close : ScenarioRecord := ⟨⟨"Bank", "Close"⟩, .failed 0 "I close" (.panicked "boom")⟩
    let s : Summary := ⟨[skip, pay, close]⟩
    let s' : Summary := ⟨[close, pay, skip]⟩
    s.records.Perm s'.records ∧
      s.verdict true = .error (.scenariosFailed 2 3 "Pay") ∧
      s'.verdict true = .error (.scenariosFailed 2 3 "Close") ∧
      RunFailure.SameButFirst (.scenariosFailed 2 3 "Pay") (.scenariosFailed 2 3 "Close") := by
  intro skip pay close s s'
  have reversed : s.records.Perm s'.records := (List.reverse_perm _).symm
  have first : s.verdict true = .error (.scenariosFailed 2 3 "Pay") :=
    ((verdict_on_records s true).2.2.1 _).2
      (Or.inl ⟨[skip], pay, [close], rfl, by decide, by decide, rfl⟩)
  have agree := ((verdict_on_records s true).2.2.2.2 s' reversed).2
  rw [first] at agree
  refine ⟨reversed, first, rfl, ?_⟩
  cases agree with
  | error same => exact same

end Acceptance
