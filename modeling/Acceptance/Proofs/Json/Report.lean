import Acceptance.DiagnosticReport
import Acceptance.Proofs.Json.Writer
import Mathlib.Data.List.Basic

/-!
# Reports are read back

The document of some diagnostics is a JSON text from which each diagnostic can be read, whatever
characters its titles and labels are made of. What is derived from the candidates, their number and
the kind of the problem, agrees with the candidates that are listed.

* `Diagnostic.reported` is what the document says of a diagnostic, `reportContent` what it says.
* `report_reads_back` says that the text stands for this, for nothing else, and for no other
  diagnostics.
-/

namespace Acceptance

open Json (Content)

/-- What is reported of a candidate. -/
def Candidate.reported (c : Candidate) : Content :=
  .object [("id", .number c.id), ("keyword", .string c.keyword.text),
    ("matcher", .string c.matcher), ("handler", .string c.handler)]

/-- What is reported of a number of candidates. -/
def kindContent : Nat → Content
  | 0 => .string "unmatched"
  | 1 => .null
  | _ => .string "ambiguous"

/-- What is reported of a diagnostic. -/
def Diagnostic.reported (d : Diagnostic) : Content :=
  .object [("feature", .string d.feature), ("scenario", .string d.scenario),
    ("step", .string d.step), ("step_index", .number d.index),
    ("kind", kindContent d.candidates.length), ("match_count", .number d.candidates.length),
    ("candidates", .array (d.candidates.map Candidate.reported))]

/-- What is reported of some diagnostics. -/
def reportContent (ds : List Diagnostic) : Content :=
  .object [("diagnostics", .array (ds.map Diagnostic.reported))]

/-! ### What the documents stand for -/

theorem Candidate.content_json (c : Candidate) : c.json.content = c.reported := rfl

theorem kindContent_eq (n : Nat) :
    kindContent n = (Problem.ofCount n).elim .null fun p => .string p.text := by
  match n with
  | 0 | 1 | _ + 2 => rfl

theorem Diagnostic.content_json (d : Diagnostic) : d.json.content = d.reported := by
  have kind : kindContent d.candidates.length = d.problem.elim .null fun p => .string p.text :=
    kindContent_eq d.candidates.length
  have candidates : d.candidates.map (Json.content ∘ Candidate.json) =
      d.candidates.map Candidate.reported :=
    List.map_congr_left fun c _ => c.content_json
  cases problem : d.problem with
  | none | some p =>
    simp only [json, reported, kind, problem, count, Json.content, Json.memberContents,
      Json.itemContents_eq_map, List.map_map, candidates, Option.elim]

theorem content_reportJson (ds : List Diagnostic) : (reportJson ds).content = reportContent ds := by
  have each : ds.map (Json.content ∘ Diagnostic.json) = ds.map Diagnostic.reported :=
    List.map_congr_left fun d _ => d.content_json
  simp only [reportJson, reportContent, Json.content, Json.memberContents, Json.itemContents_eq_map,
    List.map_map, each]

/-! ### Different diagnostics have different documents -/

theorem Keyword.text_inj {k k' : Keyword} (h : k.text = k'.text) : k = k' :=
  eq_of_lowerAscii_text (by rw [h])

theorem Candidate.json_injective : Function.Injective Candidate.json := by
  rintro ⟨id, k, m, l⟩ ⟨id', k', m', l'⟩ h
  simp only [json, Json.object.injEq, List.cons.injEq, Prod.mk.injEq, Json.number.injEq,
    Json.string.injEq, true_and, and_true] at h
  obtain ⟨rfl, hk, rfl, rfl⟩ := h
  rw [Keyword.text_inj hk]

theorem Diagnostic.json_injective : Function.Injective Diagnostic.json := by
  rintro ⟨f, sc, st, i, cs⟩ ⟨f', sc', st', i', cs'⟩ h
  simp only [json, Json.object.injEq, List.cons.injEq, Prod.mk.injEq, Json.number.injEq,
    Json.string.injEq, Json.array.injEq, true_and, and_true] at h
  obtain ⟨rfl, rfl, rfl, rfl, -, -, hc⟩ := h
  rw [List.map_injective_iff.mpr Candidate.json_injective hc]

theorem reportJson_injective : Function.Injective reportJson := by
  intro ds ds' h
  simp only [reportJson, Json.object.injEq, List.cons.injEq, Prod.mk.injEq, Json.array.injEq,
    true_and, and_true] at h
  exact List.map_injective_iff.mpr Diagnostic.json_injective h

/-! ### The text of a report -/

/-- The text of a report is a JSON text that stands for what is reported and for nothing else, and
no other diagnostics have this text. -/
theorem report_reads_back (ds : List Diagnostic) :
    (∀ v, Json.IsText v (reportJson ds).text ↔ v = reportContent ds) ∧
      BindingFailure.json ⟨ds⟩ = (reportJson ds).text ∧
      ∀ ds', (reportJson ds').text = (reportJson ds).text ↔ ds' = ds := by
  refine ⟨fun v => ?_, rfl, fun ds' => ⟨fun same => ?_, fun same => same ▸ rfl⟩⟩
  · rw [Json.isText_text_iff, content_reportJson]
  · exact reportJson_injective (Json.text_injective same)

example :
    (reportJson [⟨"Bank", "Deposit", "say \"hi\"", 2, [⟨0, .step, "\\", "a\nb"⟩]⟩]).text =
      "\x7b\"diagnostics\":[\x7b\"feature\":\"Bank\",\"scenario\":\"Deposit\"," ++
      "\"step\":\"say \\\"hi\\\"\",\"step_index\":2,\"kind\":null,\"match_count\":1," ++
      "\"candidates\":[\x7b\"id\":0,\"keyword\":\"Step\",\"matcher\":\"\\\\\"," ++
      "\"handler\":\"a\\nb\"\x7d]\x7d]\x7d" := by
  cbv

end Acceptance
