import Acceptance.Plan

/-!
# How plans run

The handlers of a plan are called in order, each in the context that the ones before have left, up
to the first that does not succeed. What a handler does is not restricted: it may look at the
context, change it, return any error or break off.

* `PlannedStep.Succeed` says that some steps succeed one after the other, and `PlannedStep.Stops`
  that they do up to a step that does not; both list the calls with their contexts.
* `PlannedStep.noting` is a step whose handler notes its calls beside the context; it does the same
  by `sequence_noting`. `Plan.calls` are the calls that a run makes, as its handlers note them.
* `sequence_of_succeed` and `sequence_of_stops` say what running steps comes to in the two cases,
  `succeed_or_stops` that there is no third, and `Succeed.sequence_append` that steps can be run in
  two parts.
-/

namespace Acceptance

variable {σ : Type}

/-! ### Endings and outcomes -/

/-- A run of a handler fails with an error: it returned the error, which is not a request to skip,
or it broke off. -/
def Ending.Fails (e : StepError) : Ending → Prop
  | .done => False
  | .error e' => e' = e ∧ e.isSkip = false
  | .brokeOff p => e = .panicked p.message

theorem Ending.fails_iff {o : Ending} {e : StepError} :
    o.Fails e ↔ o.error? = some e ∧ e.isSkip = false := by
  cases o with
  | done => simp [Fails, error?]
  | error e' => simp [Fails, error?]
  | brokeOff p =>
    simp only [Fails, error?, Option.some.injEq]
    constructor
    · rintro rfl
      exact ⟨rfl, rfl⟩
    · rintro ⟨rfl, -⟩
      rfl

theorem Ending.error?_eq_none_iff {o : Ending} : o.error? = none ↔ o = .done := by
  cases o <;> simp [error?]

theorem Ending.error?_eq_some_skipped_iff {o : Ending} {m : Option String} :
    o.error? = some (.skipped m) ↔ o = .error (.skipped m) := by
  cases o <;> simp [error?]

/-- The outcome of a scenario that stops at a step with an error. -/
def Outcome.stopped (k : Nat) (text : String) : StepError → Outcome
  | .skipped m => .skipped m
  | e => .failed k text e

theorem Outcome.stopped_ne_passed (k : Nat) (text : String) (e : StepError) :
    Outcome.stopped k text e ≠ .passed := by
  cases e <;> exact Outcome.noConfusion

theorem Outcome.stopped_eq_failed_iff {k k' : Nat} {text text' : String} {e e' : StepError} :
    Outcome.stopped k text e = .failed k' text' e' ↔
      k = k' ∧ text = text' ∧ e = e' ∧ e'.isSkip = false := by
  constructor
  · intro h
    cases e <;> cases h <;> exact ⟨rfl, rfl, rfl, rfl⟩
  · rintro ⟨rfl, rfl, rfl, he⟩
    cases e with
    | skipped m => cases he
    | failed m => rfl
    | panicked m => rfl

theorem Outcome.stopped_eq_skipped_iff {k : Nat} {text : String} {e : StepError}
    {m : Option String} : Outcome.stopped k text e = .skipped m ↔ e = .skipped m := by
  cases e <;> simp [stopped]

/-- The outcome when there are `n` more steps before. -/
def Outcome.shift (n : Nat) : Outcome → Outcome
  | .failed k text e => .failed (n + k) text e
  | o => o

theorem Outcome.shift_stopped (n k : Nat) (text : String) (e : StepError) :
    (stopped k text e).shift n = stopped (n + k) text e := by
  cases e <;> rfl

/-- The run with steps before it that have succeeded. -/
def Run.behind (before : List (PlannedStep σ)) (r : Run σ) : Run σ :=
  ⟨r.outcome.shift before.length, r.context, before ++ r.called⟩

namespace PlannedStep

/-! ### One step -/

theorem sequence_cons_of_done {s : PlannedStep σ} {c d : σ} (h : s.handler.run c = (.done, d))
    (i : Nat) (rest : List (PlannedStep σ)) :
    sequence i (s :: rest) c = (sequence (i + 1) rest d).after s := by
  rw [sequence, h]
  rfl

theorem sequence_cons_of_error {s : PlannedStep σ} {c : σ} {e : StepError}
    (h : (s.handler.run c).1.error? = some e) (i : Nat) (rest : List (PlannedStep σ)) :
    sequence i (s :: rest) c = ⟨.stopped i s.text e, (s.handler.run c).2, [s]⟩ := by
  rw [sequence]
  dsimp only
  rw [h]
  cases e <;> rfl

/-- The position of the first step shows in the outcome only. -/
theorem sequence_add (n i : Nat) (steps : List (PlannedStep σ)) (c : σ) :
    sequence (n + i) steps c =
      { sequence i steps c with outcome := (sequence i steps c).outcome.shift n } := by
  induction steps generalizing i c with
  | nil => rfl
  | cons s steps ih =>
    cases he : (s.handler.run c).1.error? with
    | some e =>
      rw [sequence_cons_of_error he, sequence_cons_of_error he, Outcome.shift_stopped]
    | none =>
      have hr : s.handler.run c = (.done, (s.handler.run c).2) :=
        Prod.ext (Ending.error?_eq_none_iff.1 he) rfl
      rw [sequence_cons_of_done hr, sequence_cons_of_done hr, Nat.add_assoc, ih]
      rfl

/-! ### Some steps -/

/-- A call of the handler of a step, with the context that it is called in. -/
structure Call (σ : Type) where
  step : PlannedStep σ
  context : σ

/-- The handlers of some steps succeed. Each is called once, in order, in the context that the one
before has left. -/
inductive Succeed : List (PlannedStep σ) → σ → List (Call σ) → σ → Prop
  | nil (c : σ) : Succeed [] c [] c
  | cons {s : PlannedStep σ} {rest : List (PlannedStep σ)} {c d e : σ} {calls : List (Call σ)}
      (hr : s.handler.run c = (.done, d)) (h : Succeed rest d calls e) :
    Succeed (s :: rest) c (⟨s, c⟩ :: calls) e

/-- Some steps succeed before the step of the last call, which ends otherwise and leaves a
context. -/
structure Stops (steps : List (PlannedStep σ)) (c : σ) (before : List (PlannedStep σ))
    (calls : List (Call σ)) (last : Call σ) (o : Ending) (d : σ) : Prop where
  steps_eq : ∃ rest, steps = before ++ last.step :: rest
  succeed : Succeed before c calls last.context
  run_eq : last.step.handler.run last.context = (o, d)
  ne_done : o ≠ .done

theorem succeed_or_stops (steps : List (PlannedStep σ)) (c : σ) :
    (∃ calls d, Succeed steps c calls d) ∨
      ∃ before calls last o d, Stops steps c before calls last o d := by
  induction steps generalizing c with
  | nil => exact Or.inl ⟨[], c, .nil c⟩
  | cons s steps ih =>
    cases hr : s.handler.run c with
    | mk o d =>
      by_cases ho : o = .done
      · subst ho
        rcases ih d with ⟨calls, e, h⟩ | ⟨before, calls, last, o, e, h⟩
        · exact Or.inl ⟨_, e, .cons hr h⟩
        · obtain ⟨rest, hrest⟩ := h.steps_eq
          exact Or.inr ⟨s :: before, ⟨s, c⟩ :: calls, last, o, e,
            ⟨rest, congrArg (s :: ·) hrest⟩, .cons hr h.succeed, h.run_eq, h.ne_done⟩
      · exact Or.inr ⟨[], [], ⟨s, c⟩, o, d, ⟨steps, rfl⟩, .nil c, hr, ho⟩

/-- Steps that succeed hand their context on to the steps behind them. -/
theorem Succeed.sequence_append {steps : List (PlannedStep σ)} {c d : σ} {calls : List (Call σ)}
    (h : Succeed steps c calls d) (i : Nat) (rest : List (PlannedStep σ)) :
    sequence i (steps ++ rest) c =
      { sequence (i + steps.length) rest d with
        called := steps ++ (sequence (i + steps.length) rest d).called } := by
  induction h generalizing i with
  | nil => rfl
  | @cons s steps _ _ _ _ hr _ ih =>
    rw [List.cons_append, sequence_cons_of_done hr, ih, List.length_cons,
      show i + (steps.length + 1) = i + 1 + steps.length by omega]
    rfl

theorem sequence_of_succeed {steps : List (PlannedStep σ)} {c d : σ} {calls : List (Call σ)}
    (h : Succeed steps c calls d) (i : Nat) : sequence i steps c = ⟨.passed, d, steps⟩ := by
  have hs := h.sequence_append i []
  rwa [List.append_nil, sequence_nil, List.append_nil] at hs

section

variable {steps before : List (PlannedStep σ)} {c d : σ} {calls : List (Call σ)} {last : Call σ}
  {o : Ending}

theorem sequence_of_stops (h : Stops steps c before calls last o d) {e : StepError}
    (he : o.error? = some e) (i : Nat) :
    sequence i steps c =
      ⟨.stopped (i + before.length) last.step.text e, d, before ++ [last.step]⟩ := by
  obtain ⟨rest, rfl⟩ := h.steps_eq
  have he' : (last.step.handler.run last.context).1.error? = some e := by rw [h.run_eq, he]
  rw [h.succeed.sequence_append, sequence_cons_of_error he', h.run_eq]

theorem Stops.append (h : Stops steps c before calls last o d) (more : List (PlannedStep σ)) :
    Stops (steps ++ more) c before calls last o d := by
  obtain ⟨rest, rfl⟩ := h.steps_eq
  exact ⟨⟨rest ++ more, List.append_assoc _ _ _⟩, h.succeed, h.run_eq, h.ne_done⟩

theorem Stops.exists_error (h : Stops steps c before calls last o d) : ∃ e, o.error? = some e :=
  Option.ne_none_iff_exists'.1 (mt Ending.error?_eq_none_iff.1 h.ne_done)

end

/-! ### Noting calls -/

/-- A context with the calls that have been noted. -/
structure Noted (σ : Type) where
  context : σ
  calls : List (Call σ)

instance [EmptyCollection σ] : EmptyCollection (Noted σ) := ⟨⟨∅, []⟩⟩

/-- The step with a handler that first notes its call and then does the same. -/
def noting (s : PlannedStep σ) : PlannedStep (Noted σ) where
  text := s.text
  matcher := s.matcher
  handler := ⟨s.handler.label, fun n =>
    ((s.handler.run n.context).1, ⟨(s.handler.run n.context).2, n.calls ++ [⟨s, n.context⟩]⟩)⟩

theorem run_noting {s : PlannedStep σ} {c d : σ} {o : Ending} (h : s.handler.run c = (o, d))
    (noted : List (Call σ)) :
    s.noting.handler.run ⟨c, noted⟩ = (o, ⟨d, noted ++ [⟨s, c⟩]⟩) := by
  simp only [noting, h]

/-- Handlers that note their calls do the same as the others. -/
theorem sequence_noting (i : Nat) (steps : List (PlannedStep σ)) (c : σ) (noted : List (Call σ)) :
    (sequence i (steps.map noting) ⟨c, noted⟩).outcome = (sequence i steps c).outcome ∧
      (sequence i (steps.map noting) ⟨c, noted⟩).context.context = (sequence i steps c).context ∧
      (sequence i (steps.map noting) ⟨c, noted⟩).called =
        (sequence i steps c).called.map noting := by
  -- both runs see the same ending of the first step, which decides whether they go on
  induction steps generalizing i c noted with
  | nil => exact ⟨rfl, rfl, rfl⟩
  | cons s steps ih =>
    cases hr : s.handler.run c with
    | mk o d =>
      have hn := run_noting hr noted
      cases he : o.error? with
      | some e =>
        rw [List.map_cons, sequence_cons_of_error (by rw [hn, he]),
          sequence_cons_of_error (by rw [hr, he]), hn, hr]
        exact ⟨rfl, rfl, rfl⟩
      | none =>
        obtain rfl := Ending.error?_eq_none_iff.1 he
        rw [List.map_cons, sequence_cons_of_done hn, sequence_cons_of_done hr]
        obtain ⟨outcome_eq, context_eq, called_eq⟩ := ih (i + 1) d (noted ++ [⟨s, c⟩])
        exact ⟨outcome_eq, context_eq, congrArg (s.noting :: ·) called_eq⟩

/-- Where steps succeed, they do so with noting handlers, and these have noted the calls. -/
theorem Succeed.noting {steps : List (PlannedStep σ)} {c d : σ} {calls : List (Call σ)}
    (h : Succeed steps c calls d) (noted : List (Call σ)) :
    ∃ calls', Succeed (steps.map PlannedStep.noting) ⟨c, noted⟩ calls' ⟨d, noted ++ calls⟩ := by
  induction h generalizing noted with
  | nil c => exact ⟨[], by rw [List.append_nil]; exact .nil _⟩
  | @cons s _ c _ _ _ hr _ ih =>
    obtain ⟨calls', h'⟩ := ih (noted ++ [⟨s, c⟩])
    rw [List.append_assoc] at h'
    exact ⟨_, .cons (run_noting hr noted) h'⟩

theorem Stops.noting {steps before : List (PlannedStep σ)} {c d : σ} {calls : List (Call σ)}
    {last : Call σ} {o : Ending} (h : Stops steps c before calls last o d) :
    ∃ before' calls' last', Stops (steps.map PlannedStep.noting) ⟨c, []⟩ before' calls' last' o
      ⟨d, calls ++ [last]⟩ := by
  obtain ⟨rest, rfl⟩ := h.steps_eq
  obtain ⟨calls', h'⟩ := h.succeed.noting []
  refine ⟨before.map PlannedStep.noting, calls', ⟨last.step.noting, ⟨last.context, calls⟩⟩,
    ⟨rest.map PlannedStep.noting, ?_⟩, h', run_noting h.run_eq calls, h.ne_done⟩
  rw [List.map_append, List.map_cons]

/-- The calls that running some steps from a context makes, as the handlers note them. -/
def calls (steps : List (PlannedStep σ)) (c : σ) : List (Call σ) :=
  (sequence 0 (steps.map noting) ⟨c, []⟩).context.calls

theorem calls_of_succeed {steps : List (PlannedStep σ)} {c d : σ} {cs : List (Call σ)}
    (h : Succeed steps c cs d) : calls steps c = cs := by
  obtain ⟨cs', h'⟩ := h.noting []
  rw [calls, sequence_of_succeed h', List.nil_append]

theorem calls_of_stops {steps before : List (PlannedStep σ)} {c d : σ} {cs : List (Call σ)}
    {last : Call σ} {o : Ending} (h : Stops steps c before cs last o d) :
    calls steps c = cs ++ [last] := by
  obtain ⟨before', cs', last', h'⟩ := h.noting
  obtain ⟨e, he⟩ := h.exists_error
  rw [calls, sequence_of_stops h' he]

theorem Succeed.append {steps more : List (PlannedStep σ)} {c d e : σ} {cs cs' : List (Call σ)}
    (h : Succeed steps c cs d) (h' : Succeed more d cs' e) :
    Succeed (steps ++ more) c (cs ++ cs') e := by
  induction h with
  | nil => exact h'
  | cons hr _ ih => exact .cons hr (ih h')

theorem Succeed.calls_append {steps : List (PlannedStep σ)} {c d : σ} {cs : List (Call σ)}
    (h : Succeed steps c cs d) (more : List (PlannedStep σ)) :
    calls (steps ++ more) c = cs ++ calls more d := by
  rcases succeed_or_stops more d with ⟨cs', e, h'⟩ | ⟨before, cs', last, o, e, h'⟩
  · rw [calls_of_succeed h', calls_of_succeed (h.append h')]
  · obtain ⟨rest, hrest⟩ := h'.steps_eq
    have hs : Stops (steps ++ more) c (steps ++ before) (cs ++ cs') last o e :=
      ⟨⟨rest, by rw [hrest, List.append_assoc]⟩, h.append h'.succeed, h'.run_eq, h'.ne_done⟩
    rw [calls_of_stops h', calls_of_stops hs, List.append_assoc]

end PlannedStep

/-! ### Breaking off and returning -/

/-- The ending, where a run that broke off has returned an error instead. -/
def Ending.returned : Ending → Ending
  | .brokeOff p => .error (.panicked p.message)
  | o => o

theorem Ending.error?_returned (o : Ending) : o.returned.error? = o.error? := by
  cases o <;> rfl

namespace PlannedStep

/-- The step with a handler that returns an error where it broke off. -/
def returning (s : PlannedStep σ) : PlannedStep σ where
  text := s.text
  matcher := s.matcher
  handler := ⟨s.handler.label, fun c => ((s.handler.run c).1.returned, (s.handler.run c).2)⟩

theorem sequence_returning (i : Nat) (steps : List (PlannedStep σ)) (c : σ) :
    sequence i (steps.map returning) c =
      { sequence i steps c with called := (sequence i steps c).called.map returning } := by
  induction steps generalizing i c with
  | nil => rfl
  | cons s steps ih =>
    have same : (s.returning.handler.run c).1.error? = (s.handler.run c).1.error? :=
      Ending.error?_returned _
    cases he : (s.handler.run c).1.error? with
    | some e =>
      rw [List.map_cons, sequence_cons_of_error (same.trans he), sequence_cons_of_error he]
      rfl
    | none =>
      have hr : s.handler.run c = (.done, (s.handler.run c).2) :=
        Prod.ext (Ending.error?_eq_none_iff.1 he) rfl
      have hr' : s.returning.handler.run c = (.done, (s.handler.run c).2) :=
        Prod.ext (Ending.error?_eq_none_iff.1 (same.trans he)) rfl
      rw [List.map_cons, sequence_cons_of_done hr, sequence_cons_of_done hr', ih]
      rfl

end PlannedStep

/-! ### Plans -/

namespace Plan

open PlannedStep

/-- The plan with more steps behind its own. -/
def followedBy (more : List (PlannedStep σ)) (p : Plan σ) : Plan σ :=
  { p with steps := p.steps ++ more }

/-- The plan with handlers that return an error where they broke off. -/
def returning (p : Plan σ) : Plan σ := { p with steps := p.steps.map PlannedStep.returning }

/-- The plan with handlers that note their calls. -/
def noting (p : Plan σ) : Plan (Noted σ) := ⟨p.title, p.steps.map PlannedStep.noting⟩

variable [EmptyCollection σ]

/-- The calls that a run makes, as the handlers note them. -/
def calls (p : Plan σ) : List (Call σ) := p.noting.run.context.calls

theorem calls_eq (p : Plan σ) : p.calls = PlannedStep.calls p.steps ∅ := rfl

/-- How a run ends: all steps succeed, or a step stops it with an error. -/
theorem run_cases (p : Plan σ) :
    (∃ cs d, Succeed p.steps ∅ cs d ∧ p.run = ⟨.passed, d, p.steps⟩ ∧ p.calls = cs) ∨
      ∃ before cs last o d e, Stops p.steps ∅ before cs last o d ∧ o.error? = some e ∧
        p.run = ⟨.stopped before.length last.step.text e, d, before ++ [last.step]⟩ ∧
        p.calls = cs ++ [last] := by
  rcases succeed_or_stops p.steps ∅ with ⟨cs, d, h⟩ | ⟨before, cs, last, o, d, h⟩
  · exact Or.inl ⟨cs, d, h, sequence_of_succeed h 0, calls_of_succeed h⟩
  · obtain ⟨e, he⟩ := h.exists_error
    have hr := sequence_of_stops h he 0
    rw [Nat.zero_add] at hr
    exact Or.inr ⟨before, cs, last, o, d, e, h, he, hr, calls_of_stops h⟩

theorem outcome_of_stops {p : Plan σ} {before : List (PlannedStep σ)} {cs : List (Call σ)}
    {last : Call σ} {o : Ending} {d : σ} (h : Stops p.steps ∅ before cs last o d) {e : StepError}
    (he : o.error? = some e) :
    p.run.outcome = .stopped before.length last.step.text e := by
  rw [run, sequence_of_stops h he, Nat.zero_add]

theorem outcome_eq_passed_iff {p : Plan σ} :
    p.run.outcome = .passed ↔ ∃ cs d, Succeed p.steps ∅ cs d := by
  constructor
  · intro hp
    rcases p.run_cases with ⟨cs, d, h, -⟩ | ⟨before, cs, last, o, d, e, -, -, hr, -⟩
    · exact ⟨cs, d, h⟩
    · rw [hr] at hp
      exact absurd hp (Outcome.stopped_ne_passed _ _ _)
  · rintro ⟨cs, d, h⟩
    rw [run, sequence_of_succeed h]

theorem outcome_eq_skipped_iff {p : Plan σ} {m : Option String} :
    p.run.outcome = .skipped m ↔
      ∃ before cs last d, Stops p.steps ∅ before cs last (.error (.skipped m)) d := by
  constructor
  · intro hs
    rcases p.run_cases with ⟨cs, d, -, hr, -⟩ | ⟨before, cs, last, o, d, e, h, he, hr, -⟩
    · rw [hr] at hs
      cases hs
    · rw [hr] at hs
      obtain rfl := Outcome.stopped_eq_skipped_iff.1 hs
      obtain rfl := Ending.error?_eq_some_skipped_iff.1 he
      exact ⟨before, cs, last, d, h⟩
  · rintro ⟨before, cs, last, d, h⟩
    exact outcome_of_stops h rfl

theorem outcome_eq_failed_iff {p : Plan σ} {k : Nat} {t : String} {e : StepError} :
    p.run.outcome = .failed k t e ↔
      ∃ before cs last o d, Stops p.steps ∅ before cs last o d ∧ before.length = k ∧
        last.step.text = t ∧ o.Fails e := by
  constructor
  · intro hf
    rcases p.run_cases with ⟨cs, d, -, hr, -⟩ | ⟨before, cs, last, o, d, e', h, he, hr, -⟩
    · rw [hr] at hf
      cases hf
    · rw [hr] at hf
      obtain ⟨hk, ht, rfl, hn⟩ := Outcome.stopped_eq_failed_iff.1 hf
      exact ⟨before, cs, last, o, d, h, hk, ht, Ending.fails_iff.2 ⟨he, hn⟩⟩
  · rintro ⟨before, cs, last, o, d, h, rfl, rfl, hf⟩
    obtain ⟨he, hn⟩ := Ending.fails_iff.1 hf
    exact (outcome_of_stops h he).trans (Outcome.stopped_eq_failed_iff.2 ⟨rfl, rfl, rfl, hn⟩)

theorem followedBy_of_ne_passed {p : Plan σ} (h : p.run.outcome ≠ .passed)
    (more : List (PlannedStep σ)) :
    (p.followedBy more).run = p.run ∧ (p.followedBy more).calls = p.calls := by
  rcases p.run_cases with ⟨cs, d, -, hr, -⟩ | ⟨before, cs, last, o, d, e, hs, he, hr, hc⟩
  · rw [hr] at h
    exact absurd rfl h
  · rw [hr, hc]
    refine ⟨?_, calls_of_stops (hs.append more)⟩
    have hm := sequence_of_stops (hs.append more) he 0
    rwa [Nat.zero_add] at hm

theorem followedBy_of_passed {p : Plan σ} (h : p.run.outcome = .passed)
    (more : List (PlannedStep σ)) :
    (p.followedBy more).run = (sequence 0 more p.run.context).behind p.steps ∧
    (p.followedBy more).calls = p.calls ++ PlannedStep.calls more p.run.context := by
  obtain ⟨cs, d, hs⟩ := outcome_eq_passed_iff.1 h
  have hr : p.run = ⟨.passed, d, p.steps⟩ := sequence_of_succeed hs 0
  rw [hr, calls_eq p, calls_of_succeed hs]
  refine ⟨?_, hs.calls_append more⟩
  have hm := hs.sequence_append 0 more
  rw [Nat.zero_add, ← Nat.add_zero p.steps.length, sequence_add] at hm
  exact hm

/-- **A plan runs up to the first step that does not succeed.** It starts from the empty context and
calls the handlers in order, each once and in the context that the one before has left, up to and
with the first that does not succeed. It passes if there is none; it is skipped if that handler
asks for it, and else it fails at the position of the step, with its text and its error. A handler
that broke off counts as one that returned the error, and to note the calls changes nothing. More
steps behind a plan that does not pass make no difference; behind one that passes they run from the
context that is left. -/
theorem run_up_to_first_stop (p : Plan σ) :
    ((∃ cs d, Succeed p.steps ∅ cs d ∧ p.run = ⟨.passed, d, p.steps⟩ ∧ p.calls = cs) ∨
      ∃ before cs last o d e, Stops p.steps ∅ before cs last o d ∧ o.error? = some e ∧
        p.run = ⟨.stopped before.length last.step.text e, d, before ++ [last.step]⟩ ∧
        p.calls = cs ++ [last]) ∧
    (p.run.outcome = .passed ↔ ∃ cs d, Succeed p.steps ∅ cs d) ∧
    (∀ m, p.run.outcome = .skipped m ↔
      ∃ before cs last d, Stops p.steps ∅ before cs last (.error (.skipped m)) d) ∧
    (∀ k t e, p.run.outcome = .failed k t e ↔
      ∃ before cs last o d, Stops p.steps ∅ before cs last o d ∧ before.length = k ∧
        last.step.text = t ∧ o.Fails e) ∧
    p.returning.run = { p.run with called := p.run.called.map PlannedStep.returning } ∧
    (p.noting.run.outcome = p.run.outcome ∧ p.noting.run.context.context = p.run.context ∧
      p.noting.run.called = p.run.called.map PlannedStep.noting) ∧
    ∀ more,
      (p.run.outcome ≠ .passed →
        (p.followedBy more).run = p.run ∧ (p.followedBy more).calls = p.calls) ∧
      (p.run.outcome = .passed →
        (p.followedBy more).run = (sequence 0 more p.run.context).behind p.steps ∧
        (p.followedBy more).calls = p.calls ++ PlannedStep.calls more p.run.context) :=
  ⟨p.run_cases, outcome_eq_passed_iff, fun _ => outcome_eq_skipped_iff,
    fun _ _ _ => outcome_eq_failed_iff, sequence_returning 0 p.steps ∅,
    sequence_noting 0 p.steps ∅ [],
    fun more => ⟨fun h => followedBy_of_ne_passed h more, fun h => followedBy_of_passed h more⟩⟩

/-- The second handler changes the context and breaks off. It runs where the first one ended, and a
third one behind it is not called. -/
theorem run_up_to_first_stop_of_payment :
    let push (n : Nat) (o : Ending) : Handler (List Nat) := ⟨"push", fun c => (o, n :: c)⟩
    let account : PlannedStep (List Nat) := ⟨"an account", .literal "a", push 1 .done⟩
    let pay : PlannedStep (List Nat) :=
      ⟨"I pay", .literal "b", push 2 (.brokeOff (.text "boom"))⟩
    let leave : PlannedStep (List Nat) := ⟨"I leave", .literal "c", push 3 .done⟩
    let p : Plan (List Nat) := ⟨⟨"Bank", "Pay"⟩, [account]⟩
    p.run.outcome = .passed ∧
      (p.followedBy [pay]).run = (sequence 0 [pay] [1]).behind [account] ∧
      (p.followedBy [pay]).run.outcome = .failed 1 "I pay" (.panicked "boom") ∧
      ((p.followedBy [pay]).followedBy [leave]).run = (p.followedBy [pay]).run ∧
      ((p.followedBy [pay]).followedBy [leave]).calls = [⟨account, []⟩, ⟨pay, [1]⟩] := by
  intro push account pay leave p
  have passes : p.run.outcome = .passed := rfl
  obtain ⟨run_pay, calls_pay⟩ := ((run_up_to_first_stop p).2.2.2.2.2.2 [pay]).2 passes
  have fails : (p.followedBy [pay]).run.outcome = .failed 1 "I pay" (.panicked "boom") := by
    rw [run_pay]
    rfl
  obtain ⟨run_leave, calls_leave⟩ :=
    ((run_up_to_first_stop (p.followedBy [pay])).2.2.2.2.2.2 [leave]).1 (by rw [fails]; nofun)
  refine ⟨passes, run_pay, fails, run_leave, ?_⟩
  rw [calls_leave, calls_pay]
  rfl

end Plan

end Acceptance
