import Acceptance.Gherkin.Expansion
import Mathlib.Data.List.Forall2

/-!
# What becomes of written scenarios

A written scenario without examples is one scenario of the feature. A written scenario with examples
is one outline, which has a scenario for each row of data; the first of them stands for it when the
feature is flattened. An outline without rows is warned about.

* `DocumentScenario.dataRows` are the rows of data of all tables, `DocumentScenario.IsPlain`,
  `IsChecked` and `IsUnchecked` tell the three kinds of written scenarios apart.
* `expand_eq_ok` is what one written scenario turns into, `Adds` what a list of them adds to a
  feature and to the log; `adds_expandAll` is the run over the list.
* `toFeature_keeps_scenarios`: no scenario is lost or duplicated.
-/

namespace Acceptance.Gherkin

/-! ### Rows of data -/

/-- The rows of a table below its header. -/
def Table.dataRows : Table → List ExampleRow
  | [] => []
  | headers :: rows => rows.map fun cells => ⟨headers, cells⟩

/-- The rows of data of a written scenario, table by table. Blocks of examples without a table have
none. -/
def DocumentScenario.dataRows (d : DocumentScenario) : List ExampleRow :=
  (d.examples.filterMap id).flatMap Table.dataRows

theorem rowsFrom_eq_ok {title : String} {headers : List String} {n : Nat}
    {rows : List (List String)} {found : List ExampleRow}
    (h : rowsFrom title headers n rows = .ok found) :
    found = rows.map fun cells => ⟨headers, cells⟩ := by
  induction rows generalizing n found with
  | nil => exact (Except.ok.inj h).symm
  | cons row rows ih =>
    unfold rowsFrom at h
    split at h
    · cases hr : rowsFrom title headers (n + 1) rows with
      | error e => rw [hr] at h; cases h
      | ok later =>
        rw [hr] at h
        cases h
        rw [List.map_cons, ih hr]
    · cases h

theorem tableRows_eq_ok {title : String} {t : Table} {found : List ExampleRow}
    (h : tableRows title t = .ok found) : found = t.dataRows := by
  cases t with
  | nil => exact (Except.ok.inj h).symm
  | cons headers rows => exact rowsFrom_eq_ok h

/-- The rows of some tables, if they are all of the right width, are their rows of data. -/
theorem checkedRows_eq_ok {title : String} {ts : List Table} {found : List ExampleRow}
    (h : checkedRows title ts = .ok found) : found = ts.flatMap Table.dataRows := by
  induction ts generalizing found with
  | nil => exact (Except.ok.inj h).symm
  | cons t ts ih =>
    unfold checkedRows at h
    cases ht : tableRows title t with
    | error e => rw [ht] at h; cases h
    | ok rows =>
      cases hr : checkedRows title ts with
      | error e => rw [ht, hr] at h; cases h
      | ok later =>
        rw [ht, hr] at h
        cases h
        rw [List.flatMap_cons, tableRows_eq_ok ht, ih hr]

/-! ### The three kinds of written scenarios -/

/-- A written scenario with the steps of the backgrounds around it. -/
abbrev Located := List String × DocumentScenario

/-- The written scenarios of a document in their order. -/
def Document.written (d : Document) : List Located := d.located

namespace Located

/-- There are no examples. -/
def IsPlain (p : Located) : Prop := p.2.examples = []

/-- There are examples, and a row of data in one of their tables. -/
def IsChecked (p : Located) : Prop := p.2.examples ≠ [] ∧ p.2.dataRows ≠ []

/-- There are examples, but no row of data in any table. -/
def IsUnchecked (p : Located) : Prop := p.2.examples ≠ [] ∧ p.2.dataRows = []

instance : DecidablePred IsPlain := fun p => inferInstanceAs (Decidable (p.2.examples = []))

instance : DecidablePred IsChecked := fun p =>
  inferInstanceAs (Decidable (p.2.examples ≠ [] ∧ p.2.dataRows ≠ []))

instance : DecidablePred IsUnchecked := fun p =>
  inferInstanceAs (Decidable (p.2.examples ≠ [] ∧ p.2.dataRows = []))

/-- The title of the scenario. -/
def title (p : Located) : String := Text.trimmed p.2.name

/-- The scenario of a written one without examples. -/
def scenario (p : Located) : Scenario := .ofTexts p.title (p.1 ++ p.2.steps)

/-- The outline of a written scenario with examples. -/
def outline (p : Located) : Outline := outlineOf p.title p.1 p.2.steps p.2.dataRows

/-- The scenario of a row of data. -/
def rowScenario (p : Located) (n : Nat) (r : ExampleRow) : Scenario :=
  Gherkin.rowScenario p.title p.1 p.2.steps n r

/-- What is logged about a written scenario with examples but without rows of data. -/
def warning (p : Located) : LogRecord := ⟨.warn, emptyOutlineWarning p.outline⟩

theorem scenarios_outline (p : Located) :
    p.outline.scenarios = p.2.dataRows.mapIdx fun i r => p.rowScenario (i + 1) r := rfl

theorem head?_scenarios_outline (p : Located) :
    p.outline.scenarios.head? = p.2.dataRows.head?.map (p.rowScenario 1) := by
  rw [scenarios_outline]
  cases p.2.dataRows with
  | nil => rfl
  | cons r rows => rw [List.mapIdx_cons]; rfl

theorem scenarios_outline_eq_nil_iff {p : Located} :
    p.outline.scenarios = [] ↔ p.2.dataRows = [] := by
  rw [scenarios_outline, List.mapIdx_eq_nil_iff]

end Located

/-! ### One written scenario -/

theorem expand_eq_ok {p : Located} {x : Expanded} (h : expand p.1 p.2 = .ok x) :
    (p.IsPlain ∧ x = .plain p.scenario) ∨ (¬ p.IsPlain ∧ x = .outline p.outline) := by
  unfold expand at h
  split at h
  · next he => exact .inl ⟨List.isEmpty_iff.1 he, (Except.ok.inj h).symm⟩
  · next he =>
    dsimp only at h
    cases hr : checkedRows (Text.trimmed p.2.name) (p.2.examples.filterMap id) with
    | error e => rw [hr] at h; cases h
    | ok rows =>
      rw [hr] at h
      cases h
      rw [checkedRows_eq_ok hr]
      exact .inr ⟨fun hp => he (List.isEmpty_iff.2 hp), rfl⟩

/-! ### All written scenarios -/

/-- What written scenarios add to a feature `f`, with the result `g` and the log `rs`: a scenario
for each that has no examples, an outline for each that has some, and a warning for each outline
without rows. -/
structure Adds (ps : List Located) (f g : Feature) (rs : List LogRecord) : Prop where
  title_eq : g.title = f.title
  scenarios_eq : g.scenarios = f.scenarios ++ (ps.filter (·.IsPlain)).map Located.scenario
  outlines_eq : g.outlines = f.outlines ++ (ps.filter (¬ ·.IsPlain)).map Located.outline
  records_eq : rs = (ps.filter (·.IsUnchecked)).map Located.warning

theorem Adds.cons_plain {p : Located} {ps : List Located} {f g : Feature} {rs : List LogRecord}
    (hp : p.IsPlain) (h : Adds ps (addExpanded f (.plain p.scenario)) g rs) :
    Adds (p :: ps) f g rs where
  title_eq := h.title_eq
  scenarios_eq := by
    rw [h.scenarios_eq, List.filter_cons_of_pos (by simpa using hp)]
    simp [addExpanded]
  outlines_eq := by
    rw [h.outlines_eq, List.filter_cons_of_neg (by simpa using hp)]
    rfl
  records_eq := by
    rw [h.records_eq, List.filter_cons_of_neg (by simpa using fun hn => absurd hp hn.1)]

theorem Adds.cons_outline {p : Located} {ps : List Located} {f g : Feature} {rs : List LogRecord}
    (hp : ¬ p.IsPlain) (h : Adds ps (addExpanded f (.outline p.outline)) g rs) :
    Adds (p :: ps) f g ((warnEmpty (.outline p.outline)).records ++ rs) where
  title_eq := h.title_eq
  scenarios_eq := by
    rw [h.scenarios_eq, List.filter_cons_of_neg (by simpa using hp)]
    rfl
  outlines_eq := by
    rw [h.outlines_eq, List.filter_cons_of_pos (by simpa using hp)]
    simp [addExpanded]
  records_eq := by
    by_cases hr : p.2.dataRows = []
    · rw [warnEmpty, if_pos (List.isEmpty_iff.2 (Located.scenarios_outline_eq_nil_iff.2 hr)),
        List.filter_cons_of_pos (by simpa using ⟨hp, hr⟩), List.map_cons, h.records_eq]
      rfl
    · rw [warnEmpty, if_neg fun he => hr (Located.scenarios_outline_eq_nil_iff.1
        (List.isEmpty_iff.1 he)), List.filter_cons_of_neg (by simpa using fun hn => absurd hn.2 hr),
        h.records_eq]
      rfl

/-- The run over a list of written scenarios adds what each of them adds, in order. -/
theorem adds_expandAll {ps : List Located} {f g : Feature}
    (h : (expandAll ps f).value = .ok g) : Adds ps f g (expandAll ps f).records := by
  induction ps generalizing f with
  | nil =>
    cases Except.ok.inj h
    exact ⟨rfl, by simp, by simp, rfl⟩
  | cons p ps ih =>
    unfold expandAll at h ⊢
    cases hx : expand p.1 p.2 with
    | error e => rw [hx] at h; cases h
    | ok x =>
      simp only [hx, Logged.value_bind] at h
      simp only [Logged.records_bind]
      rcases expand_eq_ok hx with ⟨hp, rfl⟩ | ⟨hp, rfl⟩
      · exact (ih h).cons_plain hp
      · exact (ih h).cons_outline hp

theorem adds_toFeature {d : Document} {f : Feature} (h : d.toFeature.value = .ok f) :
    Adds d.written ⟨Text.trimmed d.name, [], []⟩ f d.toFeature.records :=
  adds_expandAll h

/-! ### Flattening -/

/-- The first scenarios of outlines are the scenarios of first rows of data. -/
theorem forall₂_first_rows (ps : List Located) :
    List.Forall₂ (fun p sc => ∃ r rows, p.2.dataRows = r :: rows ∧ sc = p.rowScenario 1 r)
      (ps.filter (·.IsChecked))
      (((ps.filter (¬ ·.IsPlain)).map Located.outline).filterMap fun o => o.scenarios.head?) := by
  induction ps with
  | nil => exact .nil
  | cons p ps ih =>
    by_cases hp : p.IsPlain
    · rw [List.filter_cons_of_neg (by simpa using fun hn => absurd hp hn.1),
        List.filter_cons_of_neg (by simpa using hp)]
      exact ih
    · rw [List.filter_cons_of_pos (p := fun q : Located => decide ¬ q.IsPlain) (by simpa using hp),
        List.map_cons, List.filterMap_cons, Located.head?_scenarios_outline]
      cases hr : p.2.dataRows with
      | nil =>
        rw [List.filter_cons_of_neg (by simpa using fun hn => absurd hr hn.2)]
        exact ih
      | cons r rows =>
        rw [List.filter_cons_of_pos (by simpa using ⟨hp, by simp [hr]⟩)]
        exact .cons ⟨r, rows, hr, rfl⟩ ih

/-- The order is: the scenarios outside of rules, then those of each rule. -/
theorem map_snd_written (d : Document) :
    d.written.map Prod.snd = d.scenarios ++ d.rules.flatMap DocumentRule.scenarios := by
  simp [Document.written, Document.located, List.map_flatMap, Function.comp_def]

/-- **No written scenario is lost or duplicated.** The flattened feature has one scenario for each
written scenario without examples, and after them one for each with a row of data, that of its first
row. Written scenarios with examples but without rows are warned about, once each, and are outlines
without scenarios. All of them are in the order of the document: those outside of rules, then those
of each rule. -/
theorem toFeature_keeps_scenarios {d : Document} {f : Feature} (h : d.toFeature.value = .ok f) :
    d.written.map Prod.snd = d.scenarios ++ d.rules.flatMap DocumentRule.scenarios ∧
    (∃ plain first, f.flatten = plain ++ first ∧
      List.Forall₂ (fun p sc => sc = p.scenario) (d.written.filter (·.IsPlain)) plain ∧
      List.Forall₂ (fun p sc => ∃ r rows, p.2.dataRows = r :: rows ∧ sc = p.rowScenario 1 r)
        (d.written.filter (·.IsChecked)) first) ∧
    List.Forall₂ (fun p o => o = p.outline) (d.written.filter (¬ ·.IsPlain)) f.outlines ∧
    d.toFeature.records = (d.written.filter (·.IsUnchecked)).map Located.warning ∧
    ∀ p ∈ d.written, p.IsUnchecked → p.outline ∈ f.outlines ∧ p.outline.scenarios = [] := by
  obtain ⟨-, hs, ho, hr⟩ := adds_toFeature h
  rw [List.nil_append] at hs ho
  refine ⟨map_snd_written d, ⟨f.scenarios, _, rfl, ?_, ?_⟩, ?_, hr, fun p hp hu => ⟨?_, ?_⟩⟩
  · rw [hs, List.forall₂_map_right_iff, List.forall₂_same]
    exact fun _ _ => rfl
  · rw [ho]
    exact forall₂_first_rows d.written
  · rw [ho, List.forall₂_map_right_iff, List.forall₂_same]
    exact fun _ _ => rfl
  · rw [ho]
    exact List.mem_map_of_mem (List.mem_filter.2 ⟨hp, decide_eq_true hu.1⟩)
  · exact Located.scenarios_outline_eq_nil_iff.2 hu.2

/-- The first table of an outline has a header only, its second one has rows; another outline, in a
rule, has no rows at all. -/
theorem toFeature_keeps_payments :
    let d : Document := ⟨"Shop", ["a shop"],
      [⟨"Pay", ["I pay <sum>"], [some [["sum"]], none, some [["sum"], ["5"], ["7"]]]⟩,
        ⟨"Enter", ["I enter"], []⟩],
      [⟨["a receipt"], [⟨"Refund", ["I get <sum>"], [some [["sum"]], some []]⟩,
        ⟨"Return", ["I return it"], []⟩]⟩]⟩
    ∃ f, d.toFeature.value = .ok f ∧
      f.flatten.map Scenario.title = ["Enter", "Return", "Pay (example 1)"] ∧
      d.toFeature.records = [⟨.warn,
        "scenario outline \"Refund\" has no example rows; its steps are not checked"⟩] := by
  intro d
  have hf : d.toFeature.value = .ok _ := rfl
  obtain ⟨-, ⟨plain, first, hflat, hplain, hfirst⟩, -, hrec, -⟩ := toFeature_keeps_scenarios hf
  refine ⟨_, hf, ?_, hrec.trans (by decide)⟩
  obtain _ | ⟨rfl, _ | ⟨rfl, ⟨⟩⟩⟩ := hplain
  obtain _ | ⟨⟨r, rows, hr, rfl⟩, ⟨⟩⟩ := hfirst
  rw [hflat]
  change [Text.trimmed "Enter", Text.trimmed "Return",
    toString (Text.trimmed "Pay") ++ " (example " ++ toString 1 ++ ")"] = _
  decide

end Acceptance.Gherkin
