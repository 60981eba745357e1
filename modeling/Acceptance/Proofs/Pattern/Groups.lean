import Acceptance.Proofs.Pattern.Reading

/-!
# Patterns in groups

Here a text stands in a group. What the reader makes of the group is compared with what it makes of
the text alone.

* `State.step_within`: a group around makes no difference until it is closed.
* `Reads.passes`, `Reads.passes_or`: runs on a text that a parenthesis follows, against runs on the
  text alone.
* `Whole` texts are patterns at the end of which a parenthesis is seen; a text that `ClosesGroup`
  begins with a whole one and a parenthesis.
* `whole_or_closesGroup`: no other text can stand in a group. A text of the second kind is no
  pattern by itself, `ClosesGroup.read?_eq_none`.
-/

namespace Acceptance.Pattern

open Reader

namespace State

/-! ### Groups around -/

/-- The state with one more open group around all others. -/
def within (outer : Level) (st : State) : State :=
  { st with levels := st.levels ++ [outer] }

variable (outer : Level)

@[simp] theorem within_verbose (st : State) : (st.within outer).verbose = st.verbose := rfl

theorem readGroup_within (st : State) (s : List Char) :
    (st.within outer).readGroup s = (st.readGroup s).map fun p => (p.1.within outer, p.2) := by
  have named (r : List Char) : (st.within outer).readNamed r =
      (st.readNamed r).map fun p => (p.1.within outer, p.2) := by
    rw [readNamed, readNamed]
    cases readName r with
    | none => rfl
    | some p =>
      show (if st.names.contains p.1 then _ else _) =
        Option.map _ (if st.names.contains p.1 then _ else _)
      split <;> rfl
  have flagged (r : List Char) : (st.within outer).readFlagged r =
      (st.readFlagged r).map fun p => (p.1.within outer, p.2) := by
    rw [readFlagged, readFlagged]
    rcases readFlags true false [] r with - | ⟨⟨- | ⟨f, fs⟩, - | -⟩, rest⟩ <;> rfl
  rw [readGroup_eq, readGroup_eq, within_verbose]
  rw [readHead.eq_def, readHead.eq_def]
  split
  · rw [readMarked.eq_def, readMarked.eq_def]
    split
    · exact named _
    · rw [readLetter.eq_def, readLetter.eq_def]
      split
      · rw [readAngle.eq_def, readAngle.eq_def]
        split
        · exact named _
        · rfl
      · exact flagged _
  · rfl

theorem repeatLast?_within (st : State) (least : Nat) (most : Option Nat) (s : List Char) :
    (st.within outer).repeatLast? least most s =
      (st.repeatLast? least most s).map fun p => (p.1.within outer, p.2) := by
  rw [repeatLast?_eq, repeatLast?_eq]
  obtain ⟨verbose, names, levels, branches, items⟩ := st
  rcases items with - | ⟨t, items⟩
  · rfl
  · cases t <;> rfl

/-- A group around makes no difference to a step, unless the step closes that group. -/
theorem step_within (st : State) (c : Char) (r : List Char) (h : c = ')' → st.levels ≠ []) :
    (st.within outer).step c r = (st.step c r).map fun p => (p.1.within outer, p.2) := by
  by_cases special : c ∈ signs
  · simp only [signs, List.mem_cons, List.not_mem_nil, or_false] at special
    rcases special with rfl | rfl | rfl | rfl | rfl | rfl | rfl | rfl | rfl | rfl | rfl | rfl
    · exact readGroup_within outer st r
    · obtain ⟨verbose, names, levels, branches, items⟩ := st
      cases levels with
      | nil => exact absurd rfl (h rfl)
      | cons l levels => rfl
    · rfl
    · simp only [step, Option.map_map]
      rfl
    · exact repeatLast?_within outer st 0 (some 1) r
    · exact repeatLast?_within outer st 0 none r
    · exact repeatLast?_within outer st 1 none r
    · simp only [step, within_verbose]
      rcases readCount st.verbose r with - | ⟨⟨least, most⟩, rest⟩
      · rfl
      · exact repeatLast?_within outer st least most _
    · rw [step_backslash, step_backslash, Option.map_map, within_verbose]
      congr 1
      funext p
      obtain ⟨- | - | -, rest⟩ := p <;> rfl
    · rfl
    · rfl
    · rfl
  · rw [step_plain special, step_plain special]
    rfl

/-- A run under a group around, at the end of which all groups are closed, comes to a parenthesis
that closes the group around. -/
theorem Reads.exists_closing {st st' : State} {s w : List Char}
    (h : Reads (st.within outer) s st' w) (closed : st'.levels = []) :
    ∃ st₁ y v, Reads st s st₁ y ∧ st₁.levels = [] ∧ skip st₁.verbose y = ')' :: v := by
  -- the step that closes the group around is the first one that makes use of it
  generalize start : st.within outer = x at h
  induction h generalizing st with
  | refl x s =>
    rw [← start] at closed
    exact absurd closed (by simp [within])
  | @step x x₁ st' s r rest w c next made later ih =>
    subst start
    by_cases closing : c = ')' ∧ st.levels = []
    · exact ⟨st, s, r, .refl st s, closing.2, by rw [← closing.1, ← next, within_verbose]⟩
    · rw [step_within outer st c r (not_and.1 closing)] at made
      obtain ⟨⟨st₁, rest'⟩, made', eq⟩ := Option.map_eq_some_iff.1 made
      obtain ⟨rfl, rfl⟩ := Prod.mk.inj eq
      obtain ⟨st₂, y, v, reads, found⟩ := ih closed rfl
      exact ⟨st₂, y, v, .step next made' reads, found⟩

/-- A run that makes no use of a group around is the same under it. -/
theorem Reads.within {st st' : State} {s w : List Char} (h : Reads st s st' w) :
    Reads (st.within outer) s (st'.within outer) w := by
  induction h with
  | refl st s => exact .refl _ s
  | @step st st₁ st' s r rest w c next made later ih =>
    refine .step next ?_ ih
    rw [step_within outer st c r, made]
    · rfl
    · rintro rfl noLevel
      simp [State.step, closeGroup?, noLevel] at made

/-! ### The end of a text before a parenthesis -/

/-- The reader gets from `st` to the end of `s` and is in `st'` there, with `w` left to be skipped.
When a parenthesis follows, it gets to the parenthesis, whatever stands behind. -/
structure Passes (st : State) (s : List Char) (st' : State) (w : List Char) : Prop where
  alone : Reads st s st' w
  ended : skip st'.verbose w = []
  before : ∀ v, Reads st (s ++ ')' :: v) st' (w ++ ')' :: v)
  paren : ∀ v, skip st'.verbose (w ++ ')' :: v) = ')' :: v

theorem Passes.refl {st : State} {s : List Char}
    (follow : ∀ v, skip st.verbose (s ++ ')' :: v) = skip st.verbose s ++ ')' :: v)
    (ended : skip st.verbose s = []) : Passes st s st s where
  alone := .refl st s
  ended := ended
  before v := .refl st (s ++ ')' :: v)
  paren v := by rw [follow, ended, List.nil_append]

theorem Passes.step {st st₁ st' : State} {s r rest w : List Char} {c : Char}
    (next : skip st.verbose s = c :: r)
    (next' : ∀ v, skip st.verbose (s ++ ')' :: v) = c :: r ++ ')' :: v)
    (made : st.step c r = some (st₁, rest))
    (made' : ∀ v, st.step c (r ++ ')' :: v) = some (st₁, rest ++ ')' :: v))
    (later : Passes st₁ rest st' w) : Passes st s st' w where
  alone := .step next made later.alone
  ended := later.ended
  before v := .step (next' v) (made' v) (later.before v)
  paren := later.paren

theorem skip_cases (verbose : Bool) (s : List Char) :
    (∀ v, skip verbose (s ++ ')' :: v) = skip verbose s ++ ')' :: v) ∨
      skip verbose s = [] ∧ skip verbose (s ++ [')']) = [] ∧
        ∀ v, skip verbose (s ++ ')' :: v) <:+ v := by
  rcases (local_skip verbose).localAt s with ⟨_, r, here, follow⟩ | ⟨beyond, alone⟩
  · left
    intro v
    obtain rfl : skip verbose s = r := congrArg Prod.snd (Option.some.inj here)
    exact congrArg Prod.snd (Option.some.inj (follow v))
  · obtain none | ⟨_, here, paren⟩ := alone
    · cases none
    · exact .inr ⟨congrArg Prod.snd (Option.some.inj here),
        congrArg Prod.snd (Option.some.inj paren), fun v => beyond v () _ rfl⟩

theorem skip_brace (verbose : Bool) (s : List Char) : skip verbose ('{' :: s) = '{' :: s := by
  cases verbose <;> rfl

/-- Nothing goes on from where a step hangs but past the parenthesis. -/
theorem Hangs.rest_suffix {st st₁ st' : State} {c : Char} {s rest u v : List Char}
    (h : st.Hangs c s) (made : st.step c (s ++ ')' :: v) = some (st₁, rest))
    (later : Reads st₁ rest st' u) (paren : skip st'.verbose u = ')' :: v) :
    rest <:+ v ∨ u <:+ v := by
  rcases h.2 v st₁ rest made with rest_le | ⟨w, rfl, noCount⟩
  · exact .inl rest_le
  right
  cases later with
  | refl =>
    rw [List.cons_append, skip_brace] at paren
    cases paren
  | @step _ st₂ _ _ r₂ rest₂ _ c₂ next₂ made₂ later₂ =>
    rw [List.cons_append, skip_brace] at next₂
    obtain ⟨rfl, rfl⟩ := List.cons.inj next₂
    have noStep : st₁.step '{' w = none := by
      rw [State.step, noCount]
      rfl
    have brace : '{' ≠ '\\' := by decide
    rcases (st₁.local_step brace).localAt w with ⟨_, _, here, -⟩ | ⟨beyond, -⟩
    · rw [noStep] at here
      cases here
    · exact later₂.suffix.trans (beyond v st₂ rest₂ made₂)

/-- A run to a parenthesis passes what stands before it. -/
theorem Reads.passes {st st' : State} {s u v : List Char} (h : Reads st (s ++ ')' :: v) st' u)
    (paren : skip st'.verbose u = ')' :: v) : ∃ w, u = w ++ ')' :: v ∧ Passes st s st' w := by
  have notPast : ¬u <:+ v := fun past => by
    have shorter := (shortens_skip st'.verbose u).length_le
    have past_le := past.length_le
    rw [paren, List.length_cons] at shorter
    omega
  -- every text on the way still has the parenthesis behind it, as the run cannot come back to it
  generalize whole : s ++ ')' :: v = x at h
  induction h generalizing s with
  | refl st x =>
    subst whole
    rcases skip_cases st.verbose s with follow | ⟨-, -, beyond⟩
    · have ended : skip st.verbose s = [] :=
        List.append_left_eq_self.1 ((follow v).symm.trans paren)
      exact ⟨s, rfl, .refl follow ended⟩
    · have past := (beyond v).length_le
      rw [paren, List.length_cons] at past
      omega
  | @step st st₁ st' x r rest u c next made later ih =>
    subst whole
    have notPast' : ¬rest <:+ v := fun past => notPast (later.suffix.trans past)
    have rest_le := st.shortens_step c r st₁ rest made
    rcases skip_cases st.verbose s with follow | ⟨-, -, beyond⟩
    swap
    · exact absurd ((rest_le.trans (List.suffix_cons c r)).trans (next ▸ beyond v)) notPast'
    cases here : skip st.verbose s with
    | nil =>
      rw [follow, here, List.nil_append] at next
      obtain ⟨rfl, rfl⟩ := List.cons.inj next
      exact absurd rest_le notPast'
    | cons d t =>
      rw [here] at follow
      rw [follow, List.cons_append] at next
      obtain ⟨rfl, rfl⟩ := List.cons.inj next
      rcases st.localAt_step d t with (⟨st₂, m, alone, with_paren⟩ | ⟨beyond, -⟩) | hangs
      · rw [with_paren] at made
        obtain ⟨rfl, rfl⟩ := Prod.mk.inj (Option.some.inj made)
        obtain ⟨w, rfl, passes⟩ := ih paren notPast rfl
        exact ⟨w, rfl, .step here follow alone with_paren passes⟩
      · exact absurd (beyond v st₁ rest made) notPast'
      · rcases hangs.rest_suffix made later paren with past | past
        · exact absurd past notPast'
        · exact absurd past notPast

/-- A run to the end of a text passes the text, or it skips a parenthesis at the end as well. -/
theorem Reads.passes_or {st st' : State} {s w : List Char} (h : Reads st s st' w)
    (ended : skip st'.verbose w = []) :
    Passes st s st' w ∨ ∃ w', Reads st (s ++ [')']) st' w' ∧ skip st'.verbose w' = [] := by
  induction h with
  | refl st s =>
    rcases skip_cases st.verbose s with follow | ⟨-, paren, -⟩
    · exact .inl (.refl follow ended)
    · exact .inr ⟨s ++ [')'], .refl st _, paren⟩
  | @step st st₁ st' s r rest w c next made later ih =>
    rcases skip_cases st.verbose s with follow | ⟨none, -, -⟩
    swap
    · rw [next] at none
      cases none
    rw [next] at follow
    rcases st.localAt_step c r with (⟨st₂, m, alone, with_paren⟩ | ⟨-, alone⟩) | hangs
    · rw [made] at alone
      obtain ⟨rfl, rfl⟩ := Prod.mk.inj (Option.some.inj alone)
      rcases ih ended with passes | ⟨w', reads, ended'⟩
      · exact .inl (.step next follow made with_paren passes)
      · exact .inr ⟨w', .step (follow []) (with_paren []) reads, ended'⟩
    · rcases alone with none | ⟨st₂, alone, paren⟩
      · rw [made] at none
        cases none
      · rw [made] at alone
        obtain ⟨rfl, rfl⟩ := Prod.mk.inj (Option.some.inj alone)
        exact .inr ⟨w, .step (follow []) paren later, ended⟩
    · rw [hangs.1] at made
      cases made

end State

/-! ### Texts that close a group around them -/

theorem readRest?_start (s : List Char) : State.start.readRest? s = Tree.read? s := rfl

theorem State.readRest?_of_paren {st : State} {s v : List Char} (closed : st.levels = [])
    (paren : skip st.verbose s = ')' :: v) : st.readRest? s = none := by
  rw [State.readRest?_eq, State.round, paren]
  simp [State.step, State.closeGroup?, closed]

/-- A text is a pattern, and a parenthesis behind it is seen: the text does not end in a comment. -/
def Whole (s : List Char) : Prop :=
  (Tree.read? s).isSome = true ∧ Tree.read? (s ++ [')']) = none

instance : DecidablePred Whole := fun s =>
  inferInstanceAs (Decidable ((Tree.read? s).isSome = true ∧ Tree.read? (s ++ [')']) = none))

/-- In a group, the text would close it before its end. -/
def ClosesGroup (s : List Char) : Prop :=
  ∃ a b, s = a ++ ')' :: b ∧ Whole a

theorem State.Passes.read? {st : State} {s w : List Char} (h : State.start.Passes s st w)
    (closed : st.levels = []) : Tree.read? s = some st.body := by
  rw [← readRest?_start, h.alone.readRest?_eq, State.readRest?_of_ended h.ended]
  simp [State.finish?, closed]

/-- What is read up to a parenthesis with no group left open is whole. -/
theorem State.Passes.whole {st : State} {s w : List Char} (h : State.start.Passes s st w)
    (closed : st.levels = []) : Whole s := by
  refine ⟨by rw [h.read? closed]; rfl, ?_⟩
  rw [← readRest?_start, (h.before []).readRest?_eq, State.readRest?_of_paren closed (h.paren [])]

theorem Whole.exists_passes {s : List Char} (h : Whole s) :
    ∃ st w, State.start.Passes s st w ∧ st.levels = [] := by
  obtain ⟨t, ht⟩ := Option.isSome_iff_exists.1 h.1
  obtain ⟨st, w, reads, ended, closed, -⟩ := State.exists_reads ((readRest?_start s).trans ht)
  rcases reads.passes_or ended with passes | ⟨w', reads, ended'⟩
  · exact ⟨st, w, passes, closed⟩
  · -- the parenthesis is skipped as well, so there is a tree for both texts
    have both : Tree.read? (s ++ [')']) = some st.body := by
      rw [← readRest?_start, reads.readRest?_eq, State.readRest?_of_ended ended']
      simp [State.finish?, closed]
    rw [h.2] at both
    cases both

/-- A text that closes a group around it is no pattern by itself. -/
theorem ClosesGroup.read?_eq_none {s : List Char} (h : ClosesGroup s) : Tree.read? s = none := by
  obtain ⟨a, b, rfl, whole⟩ := h
  obtain ⟨st, w, passes, closed⟩ := whole.exists_passes
  rw [← readRest?_start, (passes.before b).readRest?_eq,
    State.readRest?_of_paren closed (passes.paren b)]

/-- A text in a group is whole or closes the group before its end, if the group is closed at all and
nothing behind it holds another parenthesis. -/
theorem whole_or_closesGroup {outer : Level} {s e : List Char} (he : ')' ∉ e)
    (h : ((State.start.within outer).readRest? (s ++ ')' :: e)).isSome = true) :
    Whole s ∨ ClosesGroup s := by
  obtain ⟨t, ht⟩ := Option.isSome_iff_exists.1 h
  obtain ⟨st', w', reads, -, closed, -⟩ := State.exists_reads ht
  obtain ⟨st, y, v, inner, closed', paren⟩ := reads.exists_closing outer closed
  have tail : ')' :: v <:+ s ++ ')' :: e := (paren ▸ shortens_skip st.verbose y).trans inner.suffix
  obtain ⟨a, split⟩ := tail
  rw [← split] at inner
  obtain ⟨w, -, passes⟩ := inner.passes paren
  have whole := passes.whole closed'
  -- the parenthesis is the one behind the text or one inside of it
  rcases List.append_eq_append_iff.1 split with ⟨m, rfl, eq⟩ | ⟨m, rfl, eq⟩
  · cases m with
    | nil => exact .inl (by simpa using whole)
    | cons c m =>
      obtain ⟨rfl, rfl⟩ := List.cons.inj eq
      exact .inr ⟨a, m, rfl, whole⟩
  · cases m with
    | nil => exact .inl (by simpa using whole)
    | cons c m =>
      obtain ⟨rfl, rfl⟩ := List.cons.inj eq
      exact absurd (by simp) he

/-- Behind a whole text in a group the reader goes on with what the group makes of the tree. -/
theorem Whole.exists_readRest? {s : List Char} {t : Tree} (h : Whole s)
    (ht : Tree.read? s = some t) (outer : Level) (e : List Char) :
    ∃ names, (State.start.within outer).readRest? (s ++ ')' :: e) =
      State.readRest? ⟨outer.verbose, names, [], outer.branches,
        outer.scope.close t :: outer.items⟩ e := by
  obtain ⟨st, w, passes, closed⟩ := h.exists_passes
  obtain rfl : st.body = t := Option.some.inj ((passes.read? closed).symm.trans ht)
  refine ⟨st.names, ((passes.before e).within outer).readRest?_eq.trans ?_⟩
  have close : (st.within outer).step ')' e = some (⟨outer.verbose, st.names, [], outer.branches,
      outer.scope.close st.body :: outer.items⟩, e) := by
    obtain ⟨verbose, names, levels, branches, items⟩ := st
    subst closed
    rfl
  exact State.Reads.readRest?_eq (.step (passes.paren e) close (.refl _ e))

end Acceptance.Pattern
