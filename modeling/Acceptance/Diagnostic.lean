import Acceptance.Registry

/-!
# Diagnostics

A step that is not bound to exactly one definition is reported by a diagnostic. Diagnostics are
collected and, if there are any, end the run with one failure.

* `Problem.ofCount` names the problem of a number of matching definitions.
* `Diagnostic.text` is the report of one step, `BindingFailure.message` that of a run.
* A `DiagnosticLog` collects diagnostics and logs each of them.
-/

namespace Acceptance

variable {σ : Type}

/-- What is wrong with a step. -/
inductive Problem where
  | unmatched
  | ambiguous
deriving DecidableEq, Repr

namespace Problem

/-- The problem of a step with a number of matching definitions. -/
def ofCount : Nat → Option Problem
  | 0 => some .unmatched
  | 1 => none
  | _ => some .ambiguous

/-- The name of a problem. -/
def text : Problem → String
  | .unmatched => "unmatched"
  | .ambiguous => "ambiguous"

theorem ofCount_eq_none_iff {n : Nat} : ofCount n = none ↔ n = 1 := by
  match n with
  | 0 => simp [ofCount]
  | 1 => simp [ofCount]
  | n + 2 => simp [ofCount]

end Problem

/-- A definition that matches a step: its position in the registry, its keyword, the text of its
matcher and the label of its handler. -/
structure Candidate where
  id : Nat
  keyword : Keyword
  matcher : String
  handler : String
deriving DecidableEq, Repr

/-- A registered definition as a candidate. -/
def Registration.candidate (x : Registration σ) : Candidate :=
  ⟨x.id, x.keyword, x.matcher.text, x.handler.label⟩

/-- A step that is not bound to exactly one definition. -/
structure Diagnostic where
  feature : String
  scenario : String
  step : String
  index : Nat
  candidates : List Candidate
deriving DecidableEq, Repr

namespace Diagnostic

/-- The number of definitions that match. -/
def count (d : Diagnostic) : Nat := d.candidates.length

/-- What is wrong. -/
def problem (d : Diagnostic) : Option Problem := Problem.ofCount d.count

/-- The candidates, each with its matcher and its label, in paragraphs of their own. -/
def described (d : Diagnostic) : String :=
  "\n\n".intercalate (d.candidates.map fun c => s!"{c.matcher}\n\n{c.handler}")

/-- The report of a diagnostic. -/
def text (d : Diagnostic) : String :=
  s!"{d.count} step definition matches were found for step \"{d.step}\" in scenario " ++
    s!"\"{d.scenario}\" in feature \"{d.feature}\". Each step can only have one matching step " ++
    s!"definition. The following step definition matches were found:\n\n{d.described}"

end Diagnostic

/-- The end of a run with diagnostics. -/
structure BindingFailure where
  diagnostics : List Diagnostic
deriving DecidableEq, Repr

namespace BindingFailure

/-- The reports of the diagnostics, in paragraphs of their own. -/
def message (f : BindingFailure) : String :=
  "\n\n".intercalate (f.diagnostics.map Diagnostic.text)

/-- The number of diagnostics with a problem. -/
def countOf (p : Problem) (f : BindingFailure) : Nat :=
  f.diagnostics.countP fun d => d.problem = some p

end BindingFailure

/-- A run ends well if it has no diagnostics. -/
def conclude : List Diagnostic → Except BindingFailure Unit
  | [] => .ok ()
  | ds => .error ⟨ds⟩

/-- Diagnostics in the order in which they were recorded. -/
structure DiagnosticLog where
  entries : List Diagnostic
deriving DecidableEq, Repr

namespace DiagnosticLog

/-- The log without entries. -/
def empty : DiagnosticLog := ⟨[]⟩

/-- The number of entries. -/
def size (l : DiagnosticLog) : Nat := l.entries.length

/-- Whether there are no entries. -/
def isEmpty (l : DiagnosticLog) : Bool := l.entries.isEmpty

/-- Records a diagnostic and logs its report. -/
def record (d : Diagnostic) (l : DiagnosticLog) : Logged DiagnosticLog := do
  Logged.tell .warn d.text
  return ⟨l.entries ++ [d]⟩

/-- Records some diagnostics in order. -/
def extend : List Diagnostic → DiagnosticLog → Logged DiagnosticLog
  | [], l => pure l
  | d :: ds, l => do extend ds (← l.record d)

@[simp] theorem value_record (d : Diagnostic) (l : DiagnosticLog) :
    (l.record d).value = ⟨l.entries ++ [d]⟩ := rfl

@[simp] theorem records_record (d : Diagnostic) (l : DiagnosticLog) :
    (l.record d).records = [⟨.warn, d.text⟩] := rfl

@[simp] theorem entries_extend (ds : List Diagnostic) (l : DiagnosticLog) :
    (l.extend ds).value.entries = l.entries ++ ds := by
  induction ds generalizing l with
  | nil => simp [extend]
  | cons d ds ih => simp [extend, ih]

@[simp] theorem records_extend (ds : List Diagnostic) (l : DiagnosticLog) :
    (l.extend ds).records = ds.map fun d => ⟨.warn, d.text⟩ := by
  induction ds generalizing l with
  | nil => rfl
  | cons d ds ih => simp [extend, ih]

end DiagnosticLog

end Acceptance
