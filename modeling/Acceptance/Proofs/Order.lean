import Acceptance.Proofs.Calls
import Acceptance.Proofs.Comparison
import Acceptance.Proofs.Registration
import Mathlib.Data.List.Perm.Basic

/-!
# The order of registration

All definitions that accept a text are found, and a step is bound only if there is one. So it does
not matter in which order definitions are registered, but for the positions by which candidates are
identified and for the order in which they are listed.

* `Diagnostic.SameUpToOrder` is what is left of the order in diagnostics.
* `perm_matching` says that the same definitions are found, and `alike_of_perm` that registries of
  the same definitions answer alike.
* `resolves_alike_of_perm` is what this means for features and runs.
-/

namespace Acceptance

open AdapterM

variable {σ : Type}

/-- Two definitions were registered with the same, perhaps under two positions. -/
def Registration.SameEntry (x x' : Registration σ) : Prop := x.entry = x'.entry

/-- A candidate without its position. -/
def Candidate.content (c : Candidate) : Keyword × String × String :=
  (c.keyword, c.matcher, c.handler)

/-- Two diagnostics report the same problem of the same step; their candidates may be listed in
another order and under other positions. -/
structure Diagnostic.SameUpToOrder (d d' : Diagnostic) : Prop where
  feature_eq : d.feature = d'.feature
  scenario_eq : d.scenario = d'.scenario
  step_eq : d.step = d'.step
  index_eq : d.index = d'.index
  problem_eq : d.problem = d'.problem
  count_eq : d.count = d'.count
  candidates_perm : (d.candidates.map Candidate.content).Perm (d'.candidates.map Candidate.content)

namespace Registry

/-- The entries that accept a text are those of the definitions that are found. -/
theorem map_entry_matching (r : Registry σ) (text : String) :
    (r.matching text).map Registration.entry =
      (r.registrations.map Registration.entry).filter fun e => e.matcher.accepts text := by
  rw [matching, List.filter_map]
  rfl

variable {r r' : Registry σ}
  (h : (r.registrations.map Registration.entry).Perm (r'.registrations.map Registration.entry))

include h

theorem perm_matching (text : String) :
    ((r.matching text).map Registration.entry).Perm
      ((r'.matching text).map Registration.entry) := by
  rw [map_entry_matching, map_entry_matching]
  exact h.filter _

theorem matchCount_eq_of_perm (text : String) : r.matchCount text = r'.matchCount text := by
  have hl := (perm_matching h text).length_eq
  rwa [List.length_map, List.length_map, length_matching, length_matching] at hl

/-- The reports of a step list the same candidates. -/
theorem report_of_perm (feature scenario : String) (st : Step) :
    (r.report feature scenario st).SameUpToOrder (r'.report feature scenario st) := by
  -- but for its position, a candidate is made of the entry alone
  have hc : ∀ q : Registry σ, (q.report feature scenario st).candidates.map Candidate.content =
      ((q.matching st.text).map Registration.entry).map fun e =>
        (e.keyword, e.matcher.text, e.handler.label) := by
    intro q
    simp only [report, matching, List.map_map]
    rfl
  have hcount : (r.report feature scenario st).count = (r'.report feature scenario st).count := by
    rw [count_report, count_report, matchCount_eq_of_perm h]
  refine ⟨rfl, rfl, rfl, rfl, congrArg Problem.ofCount hcount, hcount, ?_⟩
  rw [hc, hc]
  exact (perm_matching h st.text).map _

theorem alike_of_perm : Alike Registration.SameEntry Diagnostic.SameUpToOrder r r' where
  matchCount_eq := matchCount_eq_of_perm h
  only text x x' hx hx' := by
    have hp := perm_matching h text
    rw [hx, hx'] at hp
    exact List.singleton_perm_singleton.1 hp
  report := report_of_perm h

end Registry

/-- **The order of registration does not matter.** Two registries that were made of the same entries
in any order bind the same steps to the same entries and report the same steps, each with the same
candidates in some order. No adapter can tell them apart, and runs against them succeed or fail
together. -/
theorem resolves_alike_of_perm {es es' : List (Entry σ)} (h : es.Perm es') :
    let r := (Registry.empty.registerAll es).value
    let r' := (Registry.empty.registerAll es').value
    (∀ f, FeatureResolution.Alike Registration.SameEntry Diagnostic.SameUpToOrder
      (r.resolveFeature f).value (r'.resolveFeature f).value) ∧
    (∀ (S : Type) (fs : List Feature) (a : Adapter σ S) (s : S),
      after (bindWith fs r a) s = after (bindWith fs r' a) s ∧
      AnswersAgree (fun e e' => List.Forall₂ Diagnostic.SameUpToOrder e.diagnostics e'.diagnostics)
        Eq (answer (bindWith fs r a) s) (answer (bindWith fs r' a) s)) ∧
    ∀ (S : Type) (fs : List Feature) (d : Strategy σ S) (s : S),
      d.events fs r s = d.events fs r' s := by
  intro r r'
  have alike : Registry.Alike Registration.SameEntry Diagnostic.SameUpToOrder r r' := by
    have hr : r = Registry.empty.addAll es := Registry.value_registerAll es .empty
    have hr' : r' = Registry.empty.addAll es' := Registry.value_registerAll es' .empty
    refine Registry.alike_of_perm ?_
    rwa [hr, hr', Registry.map_entry_addAll_empty, Registry.map_entry_addAll_empty]
  have same : ∀ x x' : Registration σ, x.SameEntry x' →
      x.matcher = x'.matcher ∧ x.handler = x'.handler := fun x x' hx =>
    ⟨congrArg Entry.matcher hx, congrArg Entry.handler hx⟩
  refine ⟨alike.resolveFeature, fun S fs a s => ⟨?_, ?_⟩, fun S fs d s => ?_⟩
  · exact alike.after_bindWith same fs a s
  · exact alike.answer_bindWith fs a s
  · exact congrArg Seen.events (alike.after_bindWith same fs d.adapter ⟨s, []⟩)

/-- In the other order, the candidates of the ambiguous step change places and positions. -/
theorem resolves_alike_of_swap :
    let signIn : Entry Unit := ⟨.when, .literal "they sign in", .always "sign in" .done⟩
    let signedIn : Entry Unit := ⟨.then_, .literal "they sign in", .always "signed in" .done⟩
    let r := (Registry.empty.registerAll [signIn, signedIn]).value
    let r' := (Registry.empty.registerAll [signedIn, signIn]).value
    let fs : List Feature := [⟨"Users", [.ofTexts "Sign in" ["they sign in"]], []⟩]
    let d : Diagnostic := ⟨"Users", "Sign in", "they sign in", 0,
      [⟨0, .when, "they sign in", "sign in"⟩, ⟨1, .then_, "they sign in", "signed in"⟩]⟩
    let d' : Diagnostic := ⟨"Users", "Sign in", "they sign in", 0,
      [⟨0, .then_, "they sign in", "signed in"⟩, ⟨1, .when, "they sign in", "sign in"⟩]⟩
    [signIn, signedIn].Perm [signedIn, signIn] ∧
      answer (bindWith fs r checkOnly) () = .error ⟨[d]⟩ ∧
      answer (bindWith fs r' checkOnly) () = .error ⟨[d']⟩ ∧ d.SameUpToOrder d' := by
  intro signIn signedIn r r' fs d d'
  have swapped : [signIn, signedIn].Perm [signedIn, signIn] := .swap _ _ _
  have agree := ((resolves_alike_of_perm swapped).2.1 Unit fs checkOnly ()).2
  have related : List.Forall₂ Diagnostic.SameUpToOrder [d] [d'] := by
    cases agree with
    | error h => exact h
  exact ⟨swapped, rfl, rfl, (List.forall₂_cons.1 related).1⟩

end Acceptance
