/-!
# Features

The scenarios of a feature as step definitions see them: texts of steps with their positions. The
rows of an outline are scenarios of their own.

* `Step`, `Scenario`, `Outline` and `Feature` are the parts.
* `Scenario.push` adds a step under the next position, `Scenario.ofTexts` numbers a list of texts.
* `Feature.flatten` lists the scenarios that stand for the feature: all plain ones and the first row
  of each outline.
-/

namespace Acceptance

/-- A step of a scenario. -/
structure Step where
  text : String
  index : Nat
deriving DecidableEq, Repr

/-- A scenario. -/
structure Scenario where
  title : String
  steps : List Step
deriving DecidableEq, Repr

/-- A scenario outline with one scenario for each row of its examples. -/
structure Outline where
  title : String
  scenarios : List Scenario
deriving DecidableEq, Repr

/-- A feature. -/
structure Feature where
  title : String
  scenarios : List Scenario
  outlines : List Outline
deriving DecidableEq, Repr

namespace Scenario

/-- The scenario with one more step, whose position is the number of steps before it. -/
def push (text : String) (s : Scenario) : Scenario :=
  { s with steps := s.steps ++ [⟨text, s.steps.length⟩] }

/-- The scenario of some texts. -/
def ofTexts (title : String) (texts : List String) : Scenario :=
  ⟨title, texts.mapIdx fun i t => ⟨t, i⟩⟩

/-- The texts of the steps. -/
def texts (s : Scenario) : List String := s.steps.map Step.text

/-- Each step has the position at which it stands. -/
def IsIndexed (s : Scenario) : Prop := s.steps.map Step.index = List.range s.steps.length

instance : DecidablePred IsIndexed := fun s =>
  inferInstanceAs (Decidable (s.steps.map Step.index = List.range s.steps.length))

@[simp] theorem texts_push (text : String) (s : Scenario) :
    (s.push text).texts = s.texts ++ [text] := by
  simp [push, texts]

@[simp] theorem texts_ofTexts (title : String) (texts : List String) :
    (ofTexts title texts).texts = texts := by
  simp only [Scenario.texts, ofTexts]
  apply List.ext_getElem?
  intro i
  simp [Option.map_map, Function.comp_def]

theorem isIndexed_push {text : String} {s : Scenario} (h : s.IsIndexed) :
    (s.push text).IsIndexed := by
  simp only [IsIndexed, push, List.map_append, List.length_append, List.map_cons, List.map_nil,
    List.length_singleton, List.range_succ] at h ⊢
  rw [h]

theorem isIndexed_ofTexts (title : String) (texts : List String) :
    (ofTexts title texts).IsIndexed := by
  simp only [IsIndexed, ofTexts, List.length_mapIdx]
  apply List.ext_getElem
  · simp
  · simp

end Scenario

namespace Feature

/-- The scenarios that stand for a feature: its plain scenarios, then the first scenario of each
outline that has one. -/
def flatten (f : Feature) : List Scenario :=
  f.scenarios ++ f.outlines.filterMap fun o => o.scenarios.head?

theorem mem_flatten {f : Feature} {s : Scenario} :
    s ∈ f.flatten ↔ s ∈ f.scenarios ∨ ∃ o ∈ f.outlines, o.scenarios.head? = some s := by
  simp [flatten]

end Feature

end Acceptance
