/-!
# Feature files as they are written

The parts of a feature file before backgrounds and examples are worked into its scenarios.

* `Document` is a file, with `DocumentScenario` and `DocumentRule` as its parts.
* A `Table` is a list of rows, the first of which is the header.
-/

namespace Acceptance.Gherkin

/-- A table: its rows, each with its cells. -/
abbrev Table := List (List String)

/-- A written scenario. Not every block of examples has a table. -/
structure DocumentScenario where
  name : String
  steps : List String
  examples : List (Option Table)
deriving DecidableEq, Repr

/-- A written rule. -/
structure DocumentRule where
  background : List String
  scenarios : List DocumentScenario
deriving DecidableEq, Repr

/-- A written feature. -/
structure Document where
  name : String
  background : List String
  scenarios : List DocumentScenario
  rules : List DocumentRule
deriving DecidableEq, Repr

end Acceptance.Gherkin
