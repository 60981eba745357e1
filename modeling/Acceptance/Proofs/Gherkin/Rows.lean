import Acceptance.Proofs.Gherkin.Expansion
import Acceptance.Proofs.Resolution
import Mathlib.Data.List.Dedup

/-!
# Rows that are not checked

Of an outline only the first row is resolved. What follows for the other rows depends on the texts
of their steps alone: a text that is resolved somewhere in the feature is settled in every row, and
of any other text nothing is known.

* `Feature.checkedTexts` are the texts that resolving a feature looks at.
* `Registry.ofLiterals` settles some texts and nothing else.
* `ExampleRow.AgreesIn` says that two rows have the same cells in the columns that a step names,
  also where the tables of the rows have them in another order.
* `rows_settled` says which steps of later rows are settled by a feature without diagnostics, and
  `later_row_not_settled` shows one that is not.
-/

namespace Acceptance

variable {σ : Type}

/-! ### Texts that are looked at -/

/-- The texts of the steps of the flattened scenarios. -/
def Feature.checkedTexts (f : Feature) : List String := f.flatten.flatMap Scenario.texts

theorem Feature.mem_checkedTexts {f : Feature} {text : String} :
    text ∈ f.checkedTexts ↔ ∃ sc ∈ f.flatten, text ∈ sc.texts := List.mem_flatMap

namespace Registry

/-- A feature has no diagnostics exactly if one definition accepts each text that is looked at. -/
theorem diagnostics_eq_nil_iff {r : Registry σ} {f : Feature} :
    (r.resolveFeature f).value.diagnostics = [] ↔
      ∀ text ∈ f.checkedTexts, r.matchCount text = 1 := by
  simp only [value_resolveFeature, List.flatMap_eq_nil_iff, reports_eq_nil_iff,
    Feature.mem_checkedTexts, Scenario.texts, List.mem_map]
  constructor
  · rintro h text ⟨sc, hsc, st, hst, rfl⟩
    exact h sc hsc st hst
  · exact fun h sc hsc st hst => h st.text ⟨sc, hsc, st, hst, rfl⟩

/-- A registry with one definition for each of some texts. -/
def ofLiterals (texts : List String) : Registry σ :=
  texts.foldl (fun r t => r.add .step (.literal t) (.always t .done)) .empty

theorem matchCount_add (k : Keyword) (m : Matcher) (h : Handler σ) (r : Registry σ)
    (text : String) :
    (r.add k m h).matchCount text = r.matchCount text + if m.accepts text then 1 else 0 := by
  simp [matchCount, List.countP_append, List.countP_cons]

theorem matchCount_ofLiterals (texts : List String) (text : String) :
    (ofLiterals texts : Registry σ).matchCount text = texts.count text := by
  have run : ∀ r : Registry σ,
      (texts.foldl (fun r t => r.add .step (.literal t) (.always t .done)) r).matchCount text =
        r.matchCount text + texts.count text := by
    induction texts with
    | nil => exact fun r => rfl
    | cons t texts ih =>
      intro r
      rw [List.foldl_cons, ih, matchCount_add, List.count_cons, Matcher.accepts]
      omega
  rw [ofLiterals, run]
  exact Nat.zero_add _

theorem matchCount_ofLiterals_dedup (texts : List String) (text : String) :
    (ofLiterals texts.dedup : Registry σ).matchCount text = if text ∈ texts then 1 else 0 := by
  rw [matchCount_ofLiterals, List.count_dedup]

end Registry

namespace Gherkin

/-! ### Rows with the same cells -/

/-- The names of the placeholders in a text. -/
def Placeholder.names (text : List Char) : List (List Char) :=
  (Placeholder.tokens text).filterMap fun
    | .char _ => none
    | .placeholder name => some name

theorem Placeholder.mem_names {text name : List Char} :
    name ∈ names text ↔ .placeholder name ∈ tokens text := by
  rw [names, List.mem_filterMap]
  constructor
  · rintro ⟨_ | _, ht, h⟩
    · cases h
    · cases h
      exact ht
  · exact fun h => ⟨_, h, rfl⟩

/-- The cell of a row in the first column of a name. -/
def ExampleRow.cell? (r : ExampleRow) (name : List Char) : Option String :=
  Placeholder.cell? r.headers r.cells name

/-- Two rows have the same cells in the columns that a step names, wherever these columns stand. -/
def ExampleRow.AgreesIn (t : String) (r q : ExampleRow) : Prop :=
  ∀ name ∈ Placeholder.names t.toList, r.cell? name = q.cell? name

instance (t : String) (r q : ExampleRow) : Decidable (r.AgreesIn t q) :=
  inferInstanceAs (Decidable (∀ name ∈ Placeholder.names t.toList, r.cell? name = q.cell? name))

/-- The text of a step in a row. -/
def ExampleRow.fill (t : String) (r : ExampleRow) : String :=
  Placeholder.substitute t r.headers r.cells

theorem ExampleRow.AgreesIn.fill_eq {t : String} {r q : ExampleRow} (h : r.AgreesIn t q) :
    r.fill t = q.fill t := by
  unfold fill Placeholder.substitute Placeholder.fill
  congr 1
  refine List.flatMap_congr fun token ht => ?_
  cases token with
  | char c => rfl
  | placeholder name =>
    have same : r.cell? name = q.cell? name := h name (Placeholder.mem_names.2 ht)
    unfold cell? at same
    simp only [Placeholder.Token.fill, same]

theorem Located.texts_rowScenario (p : Located) (n : Nat) (r : ExampleRow) :
    (p.rowScenario n r).texts = p.1 ++ p.2.steps.map r.fill :=
  Scenario.texts_ofTexts _ _

theorem Located.exists_row {p : Located} {sc : Scenario} (h : sc ∈ p.outline.scenarios) :
    ∃ n, ∃ row ∈ p.2.dataRows, sc = p.rowScenario n row := by
  rw [Located.scenarios_outline] at h
  obtain ⟨i, hi, rfl⟩ := List.mem_mapIdx.1 h
  exact ⟨i + 1, p.2.dataRows[i], List.getElem_mem hi, rfl⟩

theorem outline_mem_outlines {d : Document} {f : Feature} (h : d.toFeature.value = .ok f)
    {p : Located} (hp : p ∈ d.written) (he : p.2.examples ≠ []) : p.outline ∈ f.outlines := by
  rw [(adds_toFeature h).outlines_eq, List.nil_append]
  exact List.mem_map_of_mem (List.mem_filter.2 ⟨hp, decide_eq_true he⟩)

/-- The steps of the first row of an outline are looked at. -/
theorem texts_first_row_checked {d : Document} {f : Feature} (h : d.toFeature.value = .ok f)
    {p : Located} (hp : p ∈ d.written) {first : ExampleRow} (hf : p.2.dataRows.head? = some first)
    {text : String} (ht : text ∈ p.1 ++ p.2.steps.map first.fill) : text ∈ f.checkedTexts := by
  have he : p.2.examples ≠ [] := by
    intro he
    simp [DocumentScenario.dataRows, he] at hf
  refine Feature.mem_checkedTexts.2 ⟨p.rowScenario 1 first, ?_, ?_⟩
  · refine Feature.mem_flatten.2 (.inr ⟨p.outline, outline_mem_outlines h hp he, ?_⟩)
    rw [Located.head?_scenarios_outline, hf, Option.map_some]
  · rwa [Located.texts_rowScenario]

/-- **What a feature without diagnostics says about all rows.** Each step whose text is looked at
anywhere in the feature is settled, in every row; any other step is left unmatched by some registry
for which the feature has no diagnostics either. In particular the steps of backgrounds are looked
at, and those steps of a row whose columns hold there what they hold in the first row. -/
theorem rows_settled {d : Document} {f : Feature} (h : d.toFeature.value = .ok f) :
    (∀ r : Registry σ, (r.resolveFeature f).value.diagnostics = [] →
      ∀ o ∈ f.outlines, ∀ sc ∈ o.scenarios, ∀ st ∈ sc.steps, st.text ∈ f.checkedTexts →
        r.matchCount st.text = 1) ∧
    (∀ o ∈ f.outlines, ∀ sc ∈ o.scenarios, ∀ st ∈ sc.steps, st.text ∉ f.checkedTexts →
      ∃ r : Registry σ, (r.resolveFeature f).value.diagnostics = [] ∧ r.matchCount st.text = 0) ∧
    ∀ p ∈ d.written, ∀ first, p.2.dataRows.head? = some first →
      p.outline ∈ f.outlines ∧ ∀ sc ∈ p.outline.scenarios, ∃ row ∈ p.2.dataRows,
        sc.texts = p.1 ++ p.2.steps.map row.fill ∧ (∀ t ∈ p.1, t ∈ f.checkedTexts) ∧
          ∀ t ∈ p.2.steps, row.AgreesIn t first → row.fill t ∈ f.checkedTexts := by
  refine ⟨fun r hr o _ sc _ st _ ht => Registry.diagnostics_eq_nil_iff.1 hr st.text ht, ?_, ?_⟩
  · intro o _ sc _ st _ ht
    refine ⟨.ofLiterals f.checkedTexts.dedup,
      Registry.diagnostics_eq_nil_iff.2 fun text hc => ?_, ?_⟩
    · rw [Registry.matchCount_ofLiterals_dedup, if_pos hc]
    · rw [Registry.matchCount_ofLiterals_dedup, if_neg ht]
  · intro p hp first hf
    have checked {text : String} (ht : text ∈ p.1 ++ p.2.steps.map first.fill) :
        text ∈ f.checkedTexts := texts_first_row_checked h hp hf ht
    refine ⟨outline_mem_outlines h hp fun he => ?_, fun sc hsc => ?_⟩
    · simp [DocumentScenario.dataRows, he] at hf
    · obtain ⟨n, row, hrow, rfl⟩ := Located.exists_row hsc
      refine ⟨row, hrow, p.texts_rowScenario n row, fun t ht => ?_, fun t ht agrees => ?_⟩
      · exact checked (List.mem_append_left _ ht)
      · rw [agrees.fill_eq]
        exact checked (List.mem_append_right _ (List.mem_map_of_mem ht))

/-- In the other rows the first step reads as in the first row, the second step does not. The last
row is of a table with the columns in another order. -/
theorem rows_settled_of_deposits :
    let deposit : DocumentScenario := ⟨"Deposit", ["I have <start>", "I deposit <sum>"],
      [some [["start", "sum"], ["1", "5"], ["1", "10"]], some [["sum", "start"], ["10", "1"]]]⟩
    let d : Document := ⟨"Accounts", [], [deposit], []⟩
    let row : ExampleRow := ⟨["start", "sum"], ["1", "5"]⟩
    let first : Scenario := .ofTexts "Deposit (example 1)" ["I have 1", "I deposit 5"]
    let second : Scenario := .ofTexts "Deposit (example 2)" ["I have 1", "I deposit 10"]
    let third : Scenario := .ofTexts "Deposit (example 3)" ["I have 1", "I deposit 10"]
    let f : Feature := ⟨"Accounts", [], [⟨"Deposit", [first, second, third]⟩]⟩
    let r : Registry Unit := .ofLiterals ["I have 1", "I deposit 5"]
    d.toFeature.value = .ok f ∧ (r.resolveFeature f).value.diagnostics = [] ∧
      r.matchCount "I have 1" = 1 ∧
      (∃ q : Registry Unit, (q.resolveFeature f).value.diagnostics = [] ∧
        q.matchCount "I deposit 10" = 0) ∧
      (∀ other ∈ deposit.dataRows, other.AgreesIn "I have <start>" row) ∧
      ∃ other ∈ deposit.dataRows, third.texts = deposit.steps.map other.fill ∧
        other.fill "I have <start>" ∈ f.checkedTexts := by
  intro deposit d row first second third f r
  have hf : d.toFeature.value = .ok f := by decide +kernel
  have hr : (r.resolveFeature f).value.diagnostics = [] := by decide +kernel
  have agree : ∀ other ∈ deposit.dataRows, other.AgreesIn "I have <start>" row := by
    decide +kernel
  obtain ⟨settled, unsettled, rows⟩ := @rows_settled Unit d f hf
  have ho : ⟨"Deposit", [first, second, third]⟩ ∈ f.outlines := List.mem_singleton_self _
  have hs : second ∈ [first, second, third] := by decide
  have ht : third ∈ [first, second, third] := by decide
  refine ⟨hf, hr, settled r hr _ ho second hs ⟨"I have 1", 0⟩ (by decide) (by decide),
    unsettled _ ho second hs ⟨"I deposit 10", 1⟩ (by decide) (by decide), agree, ?_⟩
  have hp : ([], deposit) ∈ d.written := List.mem_singleton_self _
  obtain ⟨written, expanded⟩ := rows _ hp row rfl
  rw [List.mem_singleton.1 written] at expanded
  obtain ⟨other, hother, texts, -, checked⟩ := expanded third ht
  exact ⟨other, hother, texts, checked _ List.mem_cons_self (agree other hother)⟩

/-- A feature without diagnostics whose second row has a step that no definition accepts. -/
theorem later_row_not_settled :
    ∃ f, (Document.toFeature ⟨"Accounts", [], [⟨"Deposit", ["I deposit <sum>"],
        [some [["sum"], ["5"], ["10"]]]⟩], []⟩).value = .ok f ∧
      ((.ofLiterals ["I deposit 5"] : Registry Unit).resolveFeature f).value.diagnostics = [] ∧
      ∃ o ∈ f.outlines, ∃ sc ∈ o.scenarios, ∃ st ∈ sc.steps,
        (.ofLiterals ["I deposit 5"] : Registry Unit).matchCount st.text ≠ 1 := by
  refine ⟨_, rfl, ?_⟩
  decide +kernel

end Gherkin

end Acceptance
