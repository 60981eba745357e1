import Acceptance.Feature
import Acceptance.Gherkin.Document
import Acceptance.Gherkin.Placeholder
import Acceptance.Logged

/-!
# Features of documents

Backgrounds and examples are worked into the scenarios of a document: each scenario gets the steps
of the backgrounds around it, and an outline gives one scenario for each row of its examples.

* `checkedRows` lists the rows of an outline with the headers they stand under; `RowWidthError` is
  the answer to a row that is not as wide as its header.
* `expand` turns one written scenario into a scenario or an outline.
* `Document.toFeature` expands a whole document and warns about outlines without rows.
-/

namespace Acceptance.Gherkin

/-- A row that is not as wide as the header of its table. Its number is that in the table, without
the header. -/
structure RowWidthError where
  scenario : String
  row : Nat
  expected : Nat
  actual : Nat
deriving DecidableEq, Repr

/-- The message of a row of the wrong width. -/
def RowWidthError.message (e : RowWidthError) : String :=
  s!"examples row {e.row} of scenario \"{e.scenario}\" has {e.actual} cells but the header has " ++
    s!"{e.expected}"

/-- A row of examples with the header it stands under. -/
structure ExampleRow where
  headers : List String
  cells : List String
deriving DecidableEq, Repr

/-- The rows of a table from number `n` on, unless one has the wrong width. -/
def rowsFrom (title : String) (headers : List String) :
    Nat → List (List String) → Except RowWidthError (List ExampleRow)
  | _, [] => .ok []
  | n, row :: rest =>
    if row.length = headers.length then do
      return ⟨headers, row⟩ :: (← rowsFrom title headers (n + 1) rest)
    else .error ⟨title, n, headers.length, row.length⟩

/-- The rows of a table below its header. -/
def tableRows (title : String) : Table → Except RowWidthError (List ExampleRow)
  | [] => .ok []
  | headers :: rows => rowsFrom title headers 1 rows

/-- The rows of some tables, one table after the other. -/
def checkedRows (title : String) : List Table → Except RowWidthError (List ExampleRow)
  | [] => .ok []
  | t :: ts => do
    let rows ← tableRows title t
    return rows ++ (← checkedRows title ts)

/-- What a written scenario turns into. -/
inductive Expanded where
  | plain (s : Scenario)
  | outline (o : Outline)
deriving DecidableEq, Repr

/-- The scenario of row number `n` of an outline. Placeholders are filled in the steps of the
outline itself, not in those of backgrounds. -/
def rowScenario (title : String) (background steps : List String) (n : Nat) (r : ExampleRow) :
    Scenario :=
  .ofTexts s!"{title} (example {n})"
    (background ++ steps.map fun t => Placeholder.substitute t r.headers r.cells)

/-- The outline of some rows. -/
def outlineOf (title : String) (background steps : List String) (rows : List ExampleRow) :
    Outline :=
  ⟨title, rows.mapIdx fun i r => rowScenario title background steps (i + 1) r⟩

/-- Expands a written scenario below the steps of the backgrounds around it. -/
def expand (background : List String) (d : DocumentScenario) : Except RowWidthError Expanded :=
  let title := Text.trimmed d.name
  if d.examples.isEmpty then .ok (.plain (.ofTexts title (background ++ d.steps)))
  else do
    let rows ← checkedRows title (d.examples.filterMap id)
    return .outline (outlineOf title background d.steps rows)

/-- The feature with one more scenario or outline at the end. -/
def addExpanded (f : Feature) : Expanded → Feature
  | .plain s => { f with scenarios := f.scenarios ++ [s] }
  | .outline o => { f with outlines := f.outlines ++ [o] }

/-- The warning about an outline without rows. -/
def emptyOutlineWarning (o : Outline) : String :=
  s!"scenario outline \"{o.title}\" has no example rows; its steps are not checked"

/-- Warns about an outline without rows. -/
def warnEmpty : Expanded → Logged Unit
  | .plain _ => pure ()
  | .outline o => if o.scenarios.isEmpty then Logged.tell .warn (emptyOutlineWarning o) else pure ()

/-- Expands written scenarios in order, each with the steps of its backgrounds, up to the first row
of the wrong width. -/
def expandAll : List (List String × DocumentScenario) → Feature →
    Logged (Except RowWidthError Feature)
  | [], f => pure (.ok f)
  | (background, d) :: rest, f =>
    match expand background d with
    | .error e => pure (.error e)
    | .ok x => do
      warnEmpty x
      expandAll rest (addExpanded f x)

/-- The scenarios of a document with the steps of the backgrounds around them: those outside of
rules, then those of each rule. -/
def Document.located (d : Document) : List (List String × DocumentScenario) :=
  (d.scenarios.map fun s => (d.background, s)) ++
    d.rules.flatMap fun r => r.scenarios.map fun s => (d.background ++ r.background, s)

/-- The feature of a document. -/
def Document.toFeature (d : Document) : Logged (Except RowWidthError Feature) :=
  expandAll d.located ⟨Text.trimmed d.name, [], []⟩

end Acceptance.Gherkin
