import Acceptance.Proofs.Gherkin.Rows
import Acceptance.Proofs.Gherkin.Widths

/-!
# What the scenarios of a document hold

A scenario has the steps of the backgrounds around it, as they are written, and then its own; in an
outline its own steps are filled with the cells of a row. The rows of an outline are numbered
through all of its tables, and each stands under the header of its own table.

* `Scenario.Holds` says what a scenario holds: a title, and texts under the positions at which they
  stand.
* `IsScenarioOf` and `IsOutlineOf` say what becomes of a written scenario below some steps of
  backgrounds, `Expands` what becomes of a list of them.
* `toFeature_expands`: a feature is made of the scenarios outside of rules, and then of those of
  each rule, with the background of this rule and of no other.
-/

namespace Acceptance

/-- A scenario holds some texts under a title, each at its position. -/
structure Scenario.Holds (title : String) (texts : List String) (sc : Scenario) : Prop where
  title_eq : sc.title = title
  texts_eq : sc.texts = texts
  isIndexed : sc.IsIndexed

theorem Scenario.holds_ofTexts (title : String) (texts : List String) :
    (Scenario.ofTexts title texts).Holds title texts :=
  ⟨rfl, texts_ofTexts title texts, isIndexed_ofTexts title texts⟩

/-- What a scenario holds is all there is to it. -/
theorem Scenario.Holds.eq_ofTexts {title : String} {texts : List String} {sc : Scenario}
    (h : sc.Holds title texts) : sc = .ofTexts title texts := by
  obtain ⟨title, steps⟩ := sc
  obtain ⟨rfl, rfl, indexed⟩ := h
  have index (i : Nat) (hi : i < steps.length) : steps[i].index = i := by
    have := congrArg (·[i]?) indexed
    simpa [hi] using this
  refine congrArg (Scenario.mk title) (List.ext_getElem (by simp [Scenario.texts]) fun i hi _ => ?_)
  have step : steps[i] = ⟨steps[i].text, i⟩ := congrArg (Step.mk steps[i].text) (index i hi)
  rw [List.getElem_mapIdx, step]
  simp [Scenario.texts]

theorem Scenario.Holds.length_steps {title : String} {texts : List String} {sc : Scenario}
    (h : sc.Holds title texts) : sc.steps.length = texts.length := by
  rw [← h.texts_eq, Scenario.texts, List.length_map]

namespace Gherkin

/-! ### One written scenario -/

variable {background : List String} {s : DocumentScenario}

/-- The scenario of a written one below the steps of some backgrounds. -/
def IsScenarioOf (background : List String) (s : DocumentScenario) (sc : Scenario) : Prop :=
  sc.Holds (Text.trimmed s.name) (background ++ s.steps)

/-- The scenario of row number `n` of a written one: only its own steps are filled, and there is a
cell for each column. -/
structure IsRowOf (background : List String) (s : DocumentScenario) (n : Nat) (r : ExampleRow)
    (sc : Scenario) : Prop where
  width_eq : r.cells.length = r.headers.length
  holds : sc.Holds s!"{Text.trimmed s.name} (example {n})"
    (background ++ s.steps.map fun t => Placeholder.substitute t r.headers r.cells)

/-- The outline of a written scenario below the steps of some backgrounds: one scenario for each row
of data, numbered from one through all tables. All of them have the same number of steps. -/
structure IsOutlineOf (background : List String) (s : DocumentScenario) (o : Outline) : Prop where
  title_eq : o.title = Text.trimmed s.name
  rows :
    List.Forall₂ (fun p sc => IsRowOf background s p.2 p.1 sc) (s.dataRows.zipIdx 1) o.scenarios
  length_steps : ∀ sc ∈ o.scenarios, sc.steps.length = background.length + s.steps.length

theorem isScenarioOf_scenario (background : List String) (s : DocumentScenario) :
    IsScenarioOf background s (Located.scenario (background, s)) :=
  Scenario.holds_ofTexts _ _

theorem Table.Fits.width_eq {t : Table} (h : t.Fits) {r : ExampleRow} (hr : r ∈ t.dataRows) :
    r.cells.length = r.headers.length := by
  cases t with
  | nil => cases hr
  | cons headers rows =>
    obtain ⟨cells, hc, rfl⟩ := List.mem_map.1 hr
    exact h cells hc

theorem DocumentScenario.Fits.width_eq (h : s.Fits) {r : ExampleRow} (hr : r ∈ s.dataRows) :
    r.cells.length = r.headers.length := by
  obtain ⟨t, ht, hr⟩ := List.mem_flatMap.1 hr
  exact (h t ht).width_eq hr

/-- Counting rows from zero and adding one is counting them from one. -/
theorem mapIdx_succ {α β : Type} (g : Nat → α → β) (l : List α) :
    l.mapIdx (fun i a => g (i + 1) a) = (l.zipIdx 1).map fun p => g p.2 p.1 := by
  rw [List.mapIdx_eq_zipIdx_map, List.zipIdx_succ, List.map_map]
  rfl

theorem isRowOf_rowScenario (background : List String) (s : DocumentScenario) (n : Nat)
    {r : ExampleRow} (width : r.cells.length = r.headers.length) :
    IsRowOf background s n r (Located.rowScenario (background, s) n r) :=
  ⟨width, Scenario.holds_ofTexts _ _⟩

theorem isOutlineOf_outline (fits : s.Fits) (background : List String) :
    IsOutlineOf background s (Located.outline (background, s)) where
  title_eq := rfl
  rows := by
    rw [Located.scenarios_outline, mapIdx_succ, List.forall₂_map_right_iff, List.forall₂_same]
    exact fun p hp => isRowOf_rowScenario background s p.2
      (fits.width_eq (List.fst_mem_of_mem_zipIdx hp))
  length_steps := by
    intro sc hsc
    obtain ⟨n, r, hr, rfl⟩ := Located.exists_row hsc
    have row := isRowOf_rowScenario background s n (fits.width_eq hr)
    rw [row.holds.length_steps, List.length_append, List.length_map]

/-! ### Written scenarios below the same backgrounds -/

/-- What becomes of some written scenarios below the steps of some backgrounds: those without
examples are scenarios, the others are outlines. -/
structure Expands (background : List String) (ss : List DocumentScenario) (scs : List Scenario)
    (os : List Outline) : Prop where
  scenarios : List.Forall₂ (IsScenarioOf background) (ss.filter (·.examples = [])) scs
  outlines : List.Forall₂ (IsOutlineOf background) (ss.filter (·.examples ≠ [])) os

/-- The scenarios of the written ones without examples. -/
def scenariosBelow (background : List String) (ss : List DocumentScenario) : List Scenario :=
  (ss.filter (·.examples = [])).map fun s => Located.scenario (background, s)

/-- The outlines of the written ones with examples. -/
def outlinesBelow (background : List String) (ss : List DocumentScenario) : List Outline :=
  (ss.filter (·.examples ≠ [])).map fun s => Located.outline (background, s)

theorem expands_below (background : List String) {ss : List DocumentScenario}
    (fits : ∀ s ∈ ss, s.Fits) :
    Expands background ss (scenariosBelow background ss) (outlinesBelow background ss) where
  scenarios := by
    rw [scenariosBelow, List.forall₂_map_right_iff, List.forall₂_same]
    exact fun s _ => isScenarioOf_scenario background s
  outlines := by
    rw [outlinesBelow, List.forall₂_map_right_iff, List.forall₂_same]
    exact fun s hs => isOutlineOf_outline (fits s (List.mem_of_mem_filter hs)) background

theorem map_scenario_written (d : Document) :
    (d.written.filter (·.IsPlain)).map Located.scenario =
      scenariosBelow d.background d.scenarios ++
        d.rules.flatMap fun r => scenariosBelow (d.background ++ r.background) r.scenarios := by
  simp only [Document.written, Document.located, List.filter_append, List.map_append,
    List.filter_flatMap, List.map_flatMap, List.filter_map, List.map_map]
  rfl

theorem map_outline_written (d : Document) :
    (d.written.filter (¬ ·.IsPlain)).map Located.outline =
      outlinesBelow d.background d.scenarios ++
        d.rules.flatMap fun r => outlinesBelow (d.background ++ r.background) r.scenarios := by
  simp only [Document.written, Document.located, List.filter_append, List.map_append,
    List.filter_flatMap, List.map_flatMap, List.filter_map, List.map_map]
  rfl

/-! ### Documents -/

/-- **What the scenarios of a document hold.** The feature has the scenarios and outlines of the
written ones outside of rules, below the background of the document, and then those of each rule,
below the background of the document and that of the rule. Each scenario holds the steps of these
backgrounds and its own ones at positions that count from zero; an outline has one scenario for each
row of data, whose own steps are filled with this row. -/
theorem toFeature_expands {d : Document} {f : Feature} (h : d.toFeature.value = .ok f) :
    f.title = Text.trimmed d.name ∧
    ∃ (scs : List Scenario) (os : List Outline) (parts : List (List Scenario × List Outline)),
      Expands d.background d.scenarios scs os ∧
      List.Forall₂ (fun r part => Expands (d.background ++ r.background) r.scenarios part.1 part.2)
        d.rules parts ∧
      f.scenarios = scs ++ parts.flatMap Prod.fst ∧ f.outlines = os ++ parts.flatMap Prod.snd := by
  have fits := (answers_toFeature d).ok_iff.1 ⟨f, h⟩
  rw [Document.allScenarios, List.forall_mem_append] at fits
  obtain ⟨title, hs, ho, -⟩ := adds_toFeature h
  rw [List.nil_append] at hs ho
  refine ⟨title, _, _, d.rules.map fun r =>
      (scenariosBelow (d.background ++ r.background) r.scenarios,
        outlinesBelow (d.background ++ r.background) r.scenarios),
    expands_below d.background fits.1, ?_, ?_, ?_⟩
  · rw [List.forall₂_map_right_iff, List.forall₂_same]
    exact fun r hr => expands_below _ fun s hs => fits.2 s (List.mem_flatMap.2 ⟨r, hr, hs⟩)
  · rw [hs, map_scenario_written, List.flatMap_map]
  · rw [ho, map_outline_written, List.flatMap_map]

/-- Two rules with backgrounds of their own, and an outline whose tables have different headers. The
placeholder in a background stays. -/
theorem toFeature_expands_two_rules :
    let pay : DocumentScenario := ⟨" Pay ", ["I pay <sum>", "<name> thanks"],
      [some [["sum"], ["5"]], none, some [["name", "sum"], ["Ann", "7"]]]⟩
    let d : Document := ⟨"Bank", ["a bank"], [⟨"Enter", ["I enter"], []⟩],
      [⟨["a teller of <name>"], [pay]⟩, ⟨["a clock"], [⟨"Wait", ["I wait"], []⟩]⟩]⟩
    ∃ f, d.toFeature.value = .ok f ∧
      f.scenarios = [.ofTexts "Enter" ["a bank", "I enter"],
        .ofTexts "Wait" ["a bank", "a clock", "I wait"]] ∧
      ∃ o, f.outlines = [o] ∧ o.title = "Pay" ∧ o.scenarios =
        [.ofTexts "Pay (example 1)"
            ["a bank", "a teller of <name>", "I pay 5", "<name> thanks"],
          .ofTexts "Pay (example 2)"
            ["a bank", "a teller of <name>", "I pay 7", "Ann thanks"]] := by
  intro pay d
  have hf : d.toFeature.value = .ok _ := rfl
  obtain ⟨-, scs, os, parts, ⟨hscs, hos⟩, hparts, hs, ho⟩ := toFeature_expands hf
  obtain _ | ⟨enter, ⟨⟩⟩ := hscs
  obtain ⟨⟩ := hos
  obtain _ | @⟨_, ⟨scs₁, os₁⟩, _, _, ⟨hscs₁, hos₁⟩,
    _ | @⟨_, ⟨scs₂, os₂⟩, _, _, ⟨hscs₂, hos₂⟩, ⟨⟩⟩⟩ := hparts
  obtain ⟨⟩ := hscs₁
  obtain _ | @⟨_, ⟨title, rows⟩, _, _, ⟨title_eq, hrows, -⟩, ⟨⟩⟩ := hos₁
  obtain _ | ⟨first, _ | ⟨second, ⟨⟩⟩⟩ := hrows
  obtain _ | ⟨wait, ⟨⟩⟩ := hscs₂
  obtain ⟨⟩ := hos₂
  refine ⟨_, hf, hs.trans ?_, _, ho, title_eq.trans (by decide), ?_⟩
  · exact congrArg₂ (fun a b => [a, b]) enter.eq_ofTexts wait.eq_ofTexts
  · refine congrArg₂ (fun a b => [a, b]) (first.holds.eq_ofTexts.trans ?_)
      (second.holds.eq_ofTexts.trans ?_)
    · decide +kernel
    · decide +kernel

end Gherkin

end Acceptance
