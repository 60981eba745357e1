import Acceptance.Proofs.Comparison
import Acceptance.Proofs.Registration

/-!
# Keywords of definitions

A definition is registered under a keyword, which is shown with the candidates of a diagnostic. It
has no part in anything else: modules that differ in keywords only are registered together, bind the
same steps and write the same messages.

* `Definition.SameButKeyword` compares definitions; `Registration.SameButKeyword`,
  `Diagnostic.SameButKeywords` and `BindError.SameButKeywords` compare what comes of them.
* `agree_ofModules` says that modules are registered together, `Registry.SameButKeywords.alike` that
  the registries answer alike, and `Diagnostic.SameButKeywords.text_eq` that no keyword is written.
* `bindModules_without_keywords` is what this means for a run.
-/

namespace Acceptance

open AdapterM

variable {σ : Type}

/-! ### The same but for keywords -/

/-- Two definitions have the same matcher and the same handler, or are the same pending one. -/
inductive Definition.SameButKeyword : Definition σ → Definition σ → Prop
  | define (k k' : Keyword) (m : MatcherSource) (h : Handler σ) :
    SameButKeyword (.define k m h) (.define k' m h)
  | pending (m : MatcherSource) : SameButKeyword (.pending m) (.pending m)

/-- Two entries have the same matcher and the same handler. -/
structure Entry.SameButKeyword (e e' : Entry σ) : Prop where
  matcher_eq : e.matcher = e'.matcher
  handler_eq : e.handler = e'.handler

/-- Two definitions stand at the same position with the same matcher and the same handler. -/
structure Registration.SameButKeyword (x x' : Registration σ) : Prop where
  id_eq : x.id = x'.id
  matcher_eq : x.matcher = x'.matcher
  handler_eq : x.handler = x'.handler

/-- Two registries hold the same definitions but for their keywords. -/
def Registry.SameButKeywords (r r' : Registry σ) : Prop :=
  List.Forall₂ Registration.SameButKeyword r.registrations r'.registrations

/-- Two candidates are the same but for the keyword. -/
structure Candidate.SameButKeyword (c c' : Candidate) : Prop where
  id_eq : c.id = c'.id
  matcher_eq : c.matcher = c'.matcher
  handler_eq : c.handler = c'.handler

/-- Two diagnostics are the same but for the keywords of their candidates. -/
structure Diagnostic.SameButKeywords (d d' : Diagnostic) : Prop where
  feature_eq : d.feature = d'.feature
  scenario_eq : d.scenario = d'.scenario
  step_eq : d.step = d'.step
  index_eq : d.index = d'.index
  candidates : List.Forall₂ Candidate.SameButKeyword d.candidates d'.candidates

/-- Two failures are of the same kind: the same bad pattern, or unbound steps with the same message,
whose diagnostics are the same but for keywords. -/
inductive BindError.SameButKeywords : BindError → BindError → Prop
  | definition (e : MatcherError) : SameButKeywords (.definition e) (.definition e)
  | unresolved {f f' : BindingFailure} (message_eq : f.message = f'.message)
    (diagnostics : List.Forall₂ Diagnostic.SameButKeywords f.diagnostics f'.diagnostics) :
    SameButKeywords (.unresolved f) (.unresolved f')

/-! ### Registering -/

namespace Definition.SameButKeyword

variable {d d' : Definition σ}

theorem fault?_eq (h : d.SameButKeyword d') : d.fault? = d'.fault? := by
  cases h with
  | define k k' m h => rfl
  | pending m => rfl

theorem registered? (h : d.SameButKeyword d') :
    Option.Rel Entry.SameButKeyword d.registered? d'.registered? := by
  cases h with
  | pending m => exact .none
  | define k k' m h =>
    simp only [Definition.registered?]
    cases m.compile with
    | error e => exact .none
    | ok m => exact .some ⟨rfl, rfl⟩

theorem findSome?_fault?_eq {ds ds' : List (Definition σ)}
    (h : List.Forall₂ Definition.SameButKeyword ds ds') :
    ds.findSome? Definition.fault? = ds'.findSome? Definition.fault? := by
  induction h with
  | nil => rfl
  | cons hd _ ih => rw [List.findSome?_cons, List.findSome?_cons, hd.fault?_eq, ih]

end Definition.SameButKeyword

namespace Registry.SameButKeywords

variable {r r' : Registry σ}

theorem add (h : r.SameButKeywords r') {e e' : Entry σ} (he : e.SameButKeyword e') :
    (r.add e.keyword e.matcher e.handler).SameButKeywords
      (r'.add e'.keyword e'.matcher e'.handler) :=
  List.rel_append h (.cons ⟨h.length_eq, he.matcher_eq, he.handler_eq⟩ .nil)

theorem addAll {es es' : List (Entry σ)} (he : List.Forall₂ Entry.SameButKeyword es es')
    (h : r.SameButKeywords r') : (r.addAll es).SameButKeywords (r'.addAll es') := by
  induction he generalizing r r' with
  | nil => exact h
  | cons he _ ih => exact ih (h.add he)

end Registry.SameButKeywords

theorem agree_ofModules {ms ms' : List (Module σ)}
    (h : List.Forall₂ (List.Forall₂ Definition.SameButKeyword) ms ms') :
    AnswersAgree Eq Registry.SameButKeywords (Registry.ofModules ms).value
      (Registry.ofModules ms').value := by
  have hds : List.Forall₂ Definition.SameButKeyword ms.flatten ms'.flatten := List.rel_flatten h
  have hes : List.Forall₂ Entry.SameButKeyword (ms.flatten.filterMap Definition.registered?)
      (ms'.flatten.filterMap Definition.registered?) :=
    List.rel_filterMap (fun d d' hd => hd.registered?) hds
  rw [Registry.value_ofModules, Registry.value_ofModules,
    Definition.SameButKeyword.findSome?_fault?_eq hds]
  cases ms'.flatten.findSome? Definition.fault? with
  | some e => exact .error rfl
  | none => exact .ok (.addAll hes .nil)

/-! ### Resolving -/

namespace Registry.SameButKeywords

variable {r r' : Registry σ} (h : r.SameButKeywords r')

include h

theorem matching (text : String) :
    List.Forall₂ Registration.SameButKeyword (r.matching text) (r'.matching text) := by
  refine List.rel_filter (fun x x' hx => ?_) h
  exact Eq.congr_left (congrArg (Matcher.accepts text) hx.matcher_eq)

theorem alike : Alike Registration.SameButKeyword Diagnostic.SameButKeywords r r' where
  matchCount_eq text := by
    rw [← length_matching, ← length_matching, (h.matching text).length_eq]
  only text x x' hx hx' := by
    have hm := h.matching text
    rw [hx, hx'] at hm
    exact (List.forall₂_cons.1 hm).1
  report feature scenario st := by
    refine ⟨rfl, rfl, rfl, rfl, List.rel_map (fun x x' hx => ?_) (h.matching st.text)⟩
    exact ⟨hx.id_eq, congrArg Matcher.text hx.matcher_eq, congrArg Handler.label hx.handler_eq⟩

end Registry.SameButKeywords

/-! ### Messages -/

theorem map_eq_of_forall₂ {α β γ : Type} {P : α → β → Prop} {f : α → γ} {g : β → γ} {as : List α}
    {bs : List β} (h : List.Forall₂ P as bs) (hfg : ∀ a b, P a b → f a = g b) :
    as.map f = bs.map g := by
  induction h with
  | nil => rfl
  | cons hab _ ih => rw [List.map_cons, List.map_cons, hfg _ _ hab, ih]

theorem Diagnostic.SameButKeywords.text_eq {d d' : Diagnostic} (h : d.SameButKeywords d') :
    d.text = d'.text := by
  have hc : d.count = d'.count := h.candidates.length_eq
  have hd : d.described = d'.described := by
    unfold described
    rw [map_eq_of_forall₂ h.candidates fun c c' hc => by rw [hc.matcher_eq, hc.handler_eq]]
  unfold text
  rw [hc, hd, h.step_eq, h.scenario_eq, h.feature_eq]

theorem message_eq_of_sameButKeywords {f f' : BindingFailure}
    (h : List.Forall₂ Diagnostic.SameButKeywords f.diagnostics f'.diagnostics) :
    f.message = f'.message := by
  unfold BindingFailure.message
  rw [map_eq_of_forall₂ h fun _ _ hd => hd.text_eq]

/-- **Keywords have no part in binding.** For modules that differ only in the keywords of their
definitions, an adapter comes to the same state, whatever it does with the calls that it gets. The
runs succeed together, or fail for the same reason with the same message, where diagnostics differ
at most in the keywords of candidates. -/
theorem bindModules_without_keywords {ms ms' : List (Module σ)}
    (h : List.Forall₂ (List.Forall₂ Definition.SameButKeyword) ms ms') (S : Type)
    (fs : List Feature) (a : Adapter σ S) (s : S) :
    after (bindModules fs ms a) s = after (bindModules fs ms' a) s ∧
    AnswersAgree BindError.SameButKeywords Eq (answer (bindModules fs ms a) s)
      (answer (bindModules fs ms' a) s) := by
  rcases (answersAgree_iff _ _ _ _).1 (agree_ofModules h) with
    ⟨r, r', same, hr, hr'⟩ | ⟨e, _, rfl, hr, hr'⟩
  · have reports := same.alike.allReports fs
    rw [answer_bindModules_of_ok hr, answer_bindModules_of_ok hr', after_bindModules_of_ok hr,
      after_bindModules_of_ok hr', ← after_bindWith, ← after_bindWith]
    refine ⟨same.alike.after_bindWith (fun x x' hx => ⟨hx.matcher_eq, hx.handler_eq⟩) fs a s, ?_⟩
    exact (agree_conclude reports).mapError fun f f' hf =>
      .unresolved (message_eq_of_sameButKeywords hf) hf
  · rw [answer_bindModules_of_error hr, answer_bindModules_of_error hr',
      after_bindModules_of_error hr, after_bindModules_of_error hr']
    exact ⟨rfl, .error (.definition e)⟩

/-- Under other keywords, the report of the ambiguous step is the same text. -/
theorem bindModules_without_keywords_of_users :
    let users (k k' : Keyword) : Module Unit :=
      [.define k (.literal "a user") (.always "first" .done), .pending (.literal "nobody"),
        .define k' (.literal "a user") (.always "second" .done)]
    let fs : List Feature := [⟨"Users", [.ofTexts "Exists" ["a user"]], []⟩]
    let failure (k k' : Keyword) : BindingFailure := ⟨[⟨"Users", "Exists", "a user", 0,
      [⟨0, k, "a user", "first"⟩, ⟨1, k', "a user", "second"⟩]⟩]⟩
    List.Forall₂ (List.Forall₂ Definition.SameButKeyword) [users .given .and] [users .step .but] ∧
      answer (bindModules fs [users .given .and] checkOnly) () =
        .error (.unresolved (failure .given .and)) ∧
      answer (bindModules fs [users .step .but] checkOnly) () =
        .error (.unresolved (failure .step .but)) ∧
      (failure .given .and).message = (failure .step .but).message := by
  intro users fs failure
  have same : List.Forall₂ (List.Forall₂ Definition.SameButKeyword) [users .given .and]
      [users .step .but] :=
    .cons (.cons (.define _ _ _ _) (.cons (.pending _) (.cons (.define _ _ _ _) .nil))) .nil
  refine ⟨same, rfl, rfl, ?_⟩
  cases (bindModules_without_keywords same Unit fs checkOnly ()).2 with
  | error h =>
    cases h with
    | unresolved message_eq _ => exact message_eq

end Acceptance
