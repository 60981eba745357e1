import Acceptance.Proofs.Gherkin.Expansion

/-!
# Rows of the wrong width

A document is refused for its first row that is not as wide as its header: first in the order of the
scenarios, then in the order of the tables of a scenario, then in the order of the rows. What comes
after this row takes no part.

* `AtFirst` speaks of the first member of a list without a property.
* `Table.Fits`, `DocumentScenario.Fits` say that all rows have the right width;
  `Table.FirstMisfit`, `DocumentScenario.FirstMisfit` and `Document.FirstMisfit` name the first row
  that has not.
* `rowsFrom`, `checkedRows`, `expand` and `expandAll` are four walks, one inside of the other. Each
  succeeds if all is well with what it walks over, and else gives the error of the first place.
* `toFeature_fits_or_misfit` is the answer to any document.
-/

namespace Acceptance

/-! ### The first member without a property -/

section AtFirst

variable {α : Type} {p : α → Prop} {q : List α → α → Prop} {a : α} {l : List α}

/-- There is a member without the property `p`, and `q` holds of the first one and of the members
before it. -/
def AtFirst (p : α → Prop) (l : List α) (q : List α → α → Prop) : Prop :=
  ∃ before a after, l = before ++ a :: after ∧ (∀ x ∈ before, p x) ∧ ¬p a ∧ q before a

theorem not_atFirst_nil : ¬AtFirst p [] q := by
  rintro ⟨before, a, after, h, -⟩
  simp at h

theorem atFirst_cons_of_not (h : ¬p a) : AtFirst p (a :: l) q ↔ q [] a := by
  constructor
  · rintro ⟨before, x, after, split, all, -, hq⟩
    cases before with
    | nil =>
      obtain ⟨rfl, -⟩ := List.cons.inj split
      exact hq
    | cons y before =>
      obtain ⟨rfl, -⟩ := List.cons.inj split
      exact absurd (all a List.mem_cons_self) h
  · exact fun hq => ⟨[], a, l, rfl, by simp, h, hq⟩

theorem atFirst_cons_of (h : p a) :
    AtFirst p (a :: l) q ↔ AtFirst p l fun before => q (a :: before) := by
  constructor
  · rintro ⟨before, x, after, split, all, hx, hq⟩
    cases before with
    | nil =>
      obtain ⟨rfl, -⟩ := List.cons.inj split
      exact absurd h hx
    | cons y before =>
      obtain ⟨rfl, rfl⟩ := List.cons.inj split
      exact ⟨before, x, after, rfl, (List.forall_mem_cons.1 all).2, hx, hq⟩
  · rintro ⟨before, x, after, rfl, all, hx, hq⟩
    exact ⟨a :: before, x, after, rfl, List.forall_mem_cons.2 ⟨h, all⟩, hx, hq⟩

end AtFirst

/-- A result is there exactly if all is well, and else it is an error that is told. -/
structure Answers {ε β : Type} (x : Except ε β) (well : Prop) (told : ε → Prop) : Prop where
  ok_iff : (∃ b, x = .ok b) ↔ well
  error_iff : ∀ e, x = .error e ↔ told e

namespace Answers

variable {α β γ ε : Type} {p : α → Prop} {q : ε → List α → α → Prop} {a : α} {l : List α}
  {well : Prop} {told : ε → Prop} {x : Except ε β}

theorem of_ok {b : β} (hw : well) (ht : ∀ e, ¬told e) : Answers (.ok b) well told :=
  ⟨iff_of_true ⟨b, rfl⟩ hw, fun e => iff_of_false nofun (ht e)⟩

theorem map (h : Answers x well told) (g : β → γ) :
    Answers (do return g (← x)) well told := by
  obtain ⟨hok, herror⟩ := h
  cases x with
  | ok b => exact of_ok (hok.1 ⟨b, rfl⟩) fun e ht => nomatch (herror e).2 ht
  | error e =>
    refine ⟨iff_of_false nofun fun hw => ?_, fun e' => ?_⟩
    · cases (hok.2 hw).choose_spec
    rw [← herror]
    exact ⟨congrArg _ ∘ Except.error.inj, congrArg _ ∘ Except.error.inj⟩

/-- A walk over nothing. -/
theorem nil {b : β} : Answers (.ok b) (∀ a ∈ [], p a) fun e => AtFirst p [] (q e) :=
  of_ok (by simp) fun _ => not_atFirst_nil

/-- A walk that goes on behind a member with the property. -/
theorem cons_of (h : p a)
    (tail : Answers x (∀ b ∈ l, p b) fun e => AtFirst p l fun before => q e (a :: before)) :
    Answers x (∀ b ∈ a :: l, p b) fun e => AtFirst p (a :: l) (q e) := by
  refine ⟨tail.ok_iff.trans ?_, fun e => (tail.error_iff e).trans (atFirst_cons_of h).symm⟩
  rw [List.forall_mem_cons]
  exact (and_iff_right h).symm

/-- A walk that stops at a member without the property. -/
theorem cons_of_not (h : ¬p a) {e : ε} (head : ∀ e', q e' [] a ↔ e = e') :
    Answers (.error e : Except ε β) (∀ b ∈ a :: l, p b) fun e' => AtFirst p (a :: l) (q e') := by
  refine ⟨iff_of_false nofun fun all => h (all a List.mem_cons_self), fun e' => ?_⟩
  rw [atFirst_cons_of_not h, head]
  exact ⟨Except.error.inj, congrArg _⟩

/-- A walk that gives one result for each member and makes one of all. -/
theorem bind {y : β → Except ε γ} (head : Answers x (p a) fun e => q e [] a)
    (tail : ∀ b, Answers (y b) (∀ c ∈ l, p c) fun e =>
      AtFirst p l fun before => q e (a :: before)) :
    Answers (x >>= y) (∀ b ∈ a :: l, p b) fun e => AtFirst p (a :: l) (q e) := by
  cases x with
  | ok b => exact (tail b).cons_of (head.ok_iff.1 ⟨b, rfl⟩)
  | error e =>
    refine cons_of_not (fun h => ?_) fun e' => ?_
    · cases (head.ok_iff.2 h).choose_spec
    rw [← head.error_iff]
    exact ⟨Except.error.inj, congrArg _⟩

end Answers

namespace Gherkin

/-! ### Rows of a table -/

/-- Every row is as wide as the header. -/
def Table.Fits : Table → Prop
  | [] => True
  | headers :: rows => ∀ row ∈ rows, row.length = headers.length

/-- An error names the first row of a table that is not as wide as the header. Rows are counted from
one, without the header. -/
def Table.FirstMisfit (title : String) : Table → RowWidthError → Prop
  | [], _ => False
  | headers :: rows, e =>
    AtFirst (fun row => row.length = headers.length) rows fun before row =>
      e = ⟨title, before.length + 1, headers.length, row.length⟩

theorem answers_rowsFrom (title : String) (headers : List String) (n : Nat)
    (rows : List (List String)) :
    Answers (rowsFrom title headers n rows) (∀ row ∈ rows, row.length = headers.length) fun e =>
      AtFirst (fun row => row.length = headers.length) rows fun before row =>
        e = ⟨title, before.length + n, headers.length, row.length⟩ := by
  -- the number of a row goes up by one with each row before it that fits
  induction rows generalizing n with
  | nil => exact .nil
  | cons row rows ih =>
    rw [rowsFrom]
    split
    · next wide =>
      refine .cons_of (a := row) wide (.map ?_ _)
      simpa only [List.length_cons, Nat.add_assoc, Nat.add_comm 1] using ih (n + 1)
    · next narrow =>
      refine .cons_of_not (a := row) narrow fun e => ?_
      rw [List.length_nil, Nat.zero_add, eq_comm]

theorem answers_tableRows (title : String) (t : Table) :
    Answers (tableRows title t) t.Fits (t.FirstMisfit title) := by
  cases t with
  | nil => exact .of_ok trivial fun _ h => h
  | cons headers rows => exact answers_rowsFrom title headers 1 rows

/-! ### Tables of a written scenario -/

namespace DocumentScenario

/-- The tables of the examples. -/
def tables (s : DocumentScenario) : List Table := s.examples.filterMap id

/-- In every table all rows are as wide as the header. -/
def Fits (s : DocumentScenario) : Prop := ∀ t ∈ s.tables, t.Fits

/-- An error names the first row of a written scenario that does not fit. -/
def FirstMisfit (s : DocumentScenario) (e : RowWidthError) : Prop :=
  AtFirst Table.Fits s.tables fun _ t => t.FirstMisfit (Text.trimmed s.name) e

end DocumentScenario

theorem answers_checkedRows (title : String) (ts : List Table) :
    Answers (checkedRows title ts) (∀ t ∈ ts, t.Fits) fun e =>
      AtFirst Table.Fits ts fun _ t => t.FirstMisfit title e := by
  induction ts with
  | nil => exact .nil
  | cons t ts ih => exact .bind (answers_tableRows title t) fun rows => ih.map _

theorem answers_expand (background : List String) (s : DocumentScenario) :
    Answers (expand background s) s.Fits s.FirstMisfit := by
  obtain ⟨name, steps, examples⟩ := s
  rw [expand]
  split
  · next none =>
    obtain rfl : examples = [] := List.isEmpty_iff.1 none
    exact .nil
  · exact (answers_checkedRows (Text.trimmed name) (examples.filterMap id)).map _

/-! ### All written scenarios -/

namespace Document

/-- The written scenarios: those outside of rules, then those of each rule. -/
def allScenarios (d : Document) : List DocumentScenario :=
  d.scenarios ++ d.rules.flatMap DocumentRule.scenarios

/-- An error names the first row of a document that does not fit. -/
def FirstMisfit (d : Document) (e : RowWidthError) : Prop :=
  AtFirst DocumentScenario.Fits d.allScenarios fun _ s => s.FirstMisfit e

end Document

theorem answers_expandAll (ps : List Located) (f : Feature) :
    Answers (expandAll ps f).value (∀ s ∈ ps.map Prod.snd, s.Fits) fun e =>
      AtFirst DocumentScenario.Fits (ps.map Prod.snd) fun _ s => s.FirstMisfit e := by
  induction ps generalizing f with
  | nil => exact .nil
  | cons p ps ih =>
    have steps : (expandAll (p :: ps) f).value =
        expand p.1 p.2 >>= fun x => (expandAll ps (addExpanded f x)).value := by
      rw [expandAll]
      cases expand p.1 p.2 <;> rfl
    rw [steps]
    exact .bind (answers_expand p.1 p.2) fun x => ih (addExpanded f x)

theorem answers_toFeature (d : Document) :
    Answers d.toFeature.value (∀ s ∈ d.allScenarios, s.Fits) d.FirstMisfit := by
  have h := answers_expandAll d.written ⟨Text.trimmed d.name, [], []⟩
  rwa [map_snd_written] at h

/-- **Which documents become features.** A document becomes a feature exactly if in every table of
every written scenario each row is as wide as the header. Otherwise the answer is the error of the
first row that is not. -/
theorem toFeature_fits_or_misfit (d : Document) :
    ((∃ f, d.toFeature.value = .ok f) ↔
        ∀ s ∈ d.allScenarios, ∀ t ∈ s.tables, t.Fits) ∧
      ∀ e, d.toFeature.value = .error e ↔ d.FirstMisfit e :=
  ⟨(answers_toFeature d).ok_iff, (answers_toFeature d).error_iff⟩

/-- The second table of an outline in a rule has a row of the wrong width, and a later outline has
another one. -/
example : (Document.toFeature ⟨"Shop", [], [⟨"Enter", ["I enter"], []⟩], [⟨[], [
    ⟨" Pay ", ["I pay <sum>"], [none, some [["sum"], ["5"]], some [["sum"], ["7"], ["8", "EUR"]]]⟩,
    ⟨"Refund", ["I get <sum>"], [some [["sum"], []]]⟩]⟩]⟩).value = .error ⟨"Pay", 2, 1, 2⟩ :=
  rfl

end Gherkin

end Acceptance
