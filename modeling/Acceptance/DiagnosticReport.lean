import Acceptance.Diagnostic
import Acceptance.Json.Writer

/-!
# Reports for other tools

The diagnostics of a run as a JSON document, for editors and build servers. The document is an
object with one member `diagnostics`, an array with one object for each diagnostic.

* `Candidate.json` and `Diagnostic.json` are the objects, `reportJson` is the document.
* `BindingFailure.json` is the text of the document of a failure.
-/

namespace Acceptance

/-- A candidate as a JSON object. -/
def Candidate.json (c : Candidate) : Json :=
  .object [("id", .number c.id), ("keyword", .string c.keyword.text),
    ("matcher", .string c.matcher), ("handler", .string c.handler)]

/-- A diagnostic as a JSON object. -/
def Diagnostic.json (d : Diagnostic) : Json :=
  .object [("feature", .string d.feature), ("scenario", .string d.scenario),
    ("step", .string d.step), ("step_index", .number d.index),
    ("kind", match d.problem with
      | some p => .string p.text
      | none => .null),
    ("match_count", .number d.count), ("candidates", .array (d.candidates.map Candidate.json))]

/-- The document of some diagnostics. -/
def reportJson (ds : List Diagnostic) : Json :=
  .object [("diagnostics", .array (ds.map Diagnostic.json))]

/-- The text of the document of a failure. -/
def BindingFailure.json (f : BindingFailure) : String := (reportJson f.diagnostics).text

end Acceptance
