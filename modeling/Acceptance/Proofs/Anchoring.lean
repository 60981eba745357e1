import Mathlib
import Acceptance.Matcher
import Acceptance.Proofs.Pattern.Groups
import Acceptance.Proofs.Pattern.Search

/-!
# Patterns for whole step texts

A pattern is compiled from its source, in a group between the two ends of a text. Here what that
means is compared with what the source means by itself.

* `Pattern.finds_enclosed`: between the ends of a text an expression matches if it spans the text.
* `Pattern.Whole.compile_anchored`: what becomes of a source whose end is seen.
* `accepts_iff_spans`: the matcher of a source that is a pattern by itself accepts the texts that
  the expression of the source spans.
* `StepPattern.read_settled`: which sources are accepted. Those that close the group are the
  exception, `StepPattern.read_of_closing` shows one.
-/

namespace Acceptance

namespace Pattern

/-! ### The two ends of a text -/

theorem length_neighbours (before : Option Char) (text : List Char) :
    (neighbours before text).length = text.length + 1 := by
  induction text generalizing before with
  | nil => rfl
  | cons c text ih => exact congrArg (· + 1) (ih (some c))

theorem lookAt_iff {text : List Char} {l : Look} {i : Nat} :
    LookAt text l i ↔ i ≤ text.length ∧
      l.holds (.of ((text.take i).foldl (fun _ c => some c) none)) (.of text[i]?) = true := by
  rcases Nat.lt_or_ge text.length i with beyond | inside
  · have none : (neighbours Option.none text)[i]? = Option.none :=
      List.getElem?_eq_none (by rw [length_neighbours]; omega)
    simp only [LookAt, none, Nat.not_le.2 beyond, false_and, reduceCtorEq, exists_const]
  · have at_ := lookAt_append (text.take i) (text.drop i) l
    rw [List.take_append_drop, List.length_take_of_le inside, List.head?_drop] at at_
    rw [at_, and_iff_right inside]

theorem lookAt_start {text : List Char} {i : Nat} : LookAt text .start i ↔ i = 0 := by
  have some_before (c : Char) (read : List Char) :
      (read.foldl (fun _ c => some c) (some c)).isNone = false := by
    induction read generalizing c with
    | nil => rfl
    | cons d read ih => exact ih d
  rw [lookAt_iff]
  cases i with
  | zero => exact iff_of_true ⟨Nat.zero_le _, rfl⟩ rfl
  | succ i =>
    refine iff_of_false ?_ (Nat.succ_ne_zero i)
    rintro ⟨inside, edge⟩
    cases text with
    | nil => exact absurd inside (Nat.not_succ_le_zero i)
    | cons c text => exact Bool.noConfusion ((some_before c (text.take i)).symm.trans edge)

theorem lookAt_stop {text : List Char} {i : Nat} : LookAt text .stop i ↔ i = text.length := by
  rw [lookAt_iff]
  have edge : Look.stop.holds (.of ((text.take i).foldl (fun _ c => some c) none)) (.of text[i]?) =
      text[i]?.isNone := rfl
  rw [edge, Option.isNone_iff_eq_none, List.getElem?_eq_none_iff]
  exact le_antisymm_iff.symm

/-! ### Between the ends of a text -/

/-- An expression in a group between the ends of the text. -/
def enclosed (e : Expr CharClass Look) : Expr CharClass Look :=
  .seq (.look .start) (.seq (.group false e) (.look .stop))

/-- Between the ends of the text an expression matches if it spans the text. -/
theorem finds_enclosed {e : Expr CharClass Look} {text : List Char} :
    Finds (enclosed e) text ↔ Spans e text 0 text.length := by
  simp only [Finds, Spans, enclosed, Expr.Matches, lookAt_start, lookAt_stop]
  constructor
  · rintro ⟨_, _, -, _, ⟨rfl, rfl⟩, _, inside, rfl, rfl⟩
    exact inside
  · intro inside
    exact ⟨0, text.length, Nat.zero_le _, 0, ⟨rfl, rfl⟩, text.length, inside, rfl, rfl⟩

/-- The tree of a pattern in a group between the ends of the text. -/
def Tree.enclosed (t : Tree) : Tree :=
  .seq (.assertion .lineStart) (.seq (.scoped [] t) (.assertion .lineEnd))

theorem Tree.depth_enclosed (t : Tree) : t.enclosed.depth = t.depth + 2 := by
  simp [enclosed, depth]

theorem Tree.meaning?_enclosed (t : Tree) :
    t.enclosed.meaning? {} = (t.meaning? {}).map fun p => (Pattern.enclosed p.1, {}) := by
  have inGroup : (Tree.scoped [] t).meaning? {} =
      (t.meaning? {}).map fun p => (.group false p.1, {}) := rfl
  have inner : (Tree.seq (.scoped [] t) (.assertion .lineEnd)).meaning? {} =
      (t.meaning? {}).map fun p => (.seq (.group false p.1) (.look .stop), {}) := by
    rw [meaning?, inGroup]
    cases t.meaning? {} <;> rfl
  have start : (Tree.assertion .lineStart).meaning? {} = some (.look .start, {}) := rfl
  rw [enclosed, meaning?, start, Option.bind_eq_bind, Option.bind_some]
  dsimp only
  rw [inner]
  cases t.meaning? {} <;> rfl

/-! ### The anchored text of a pattern -/

/-- The group around a source. -/
def anchorLevel : Level := ⟨.flags [], false, [], [.assertion .lineStart]⟩

theorem read?_anchored (s : List Char) :
    Tree.read? (anchored s) = (State.start.within anchorLevel).readRest? (s ++ [')', '$']) := by
  -- the first two steps read the anchor and the head of the group
  have opened : State.Reads .start (anchored s) (State.start.within anchorLevel)
      (s ++ [')', '$']) :=
    .step rfl rfl (.step rfl rfl (.refl _ _))
  exact opened.readRest?_eq

theorem whole_or_closesGroup_of_anchored {s : List Char}
    (h : (Tree.read? (anchored s)).isSome = true) : Whole s ∨ ClosesGroup s :=
  whole_or_closesGroup (by decide) (read?_anchored s ▸ h)

theorem Whole.read?_anchored {s : List Char} {t : Tree} (h : Whole s) (ht : Tree.read? s = some t) :
    Tree.read? (anchored s) = some t.enclosed := by
  obtain ⟨names, closed⟩ := h.exists_readRest? ht anchorLevel ['$']
  exact (Pattern.read?_anchored s).trans closed

/-- The expression of a text, whatever its nesting and its size. -/
def expr? (s : List Char) : Option (Expr CharClass Look) :=
  (Tree.read? s).bind fun t => (t.meaning? {}).map Prod.fst

theorem compile_eq_ok_iff {s : List Char} {e : Expr CharClass Look} :
    compile s = .ok e ↔ ∃ t f, Tree.read? s = some t ∧ t.depth ≤ depthLimit ∧
      t.meaning? {} = some (e, f) ∧ e.fits = true := by
  constructor
  · intro h
    rw [compile] at h
    cases ht : Tree.read? s with
    | none => rw [ht] at h; cases h
    | some t =>
      rw [ht] at h
      simp only at h
      split_ifs at h with deep
      cases meaning : t.meaning? {} with
      | none => rw [meaning] at h; cases h
      | some p =>
        obtain ⟨e', f⟩ := p
        rw [meaning] at h
        simp only at h
        split_ifs at h with fits
        obtain rfl : e' = e := Except.ok.inj h
        exact ⟨t, f, rfl, Nat.not_lt.1 deep, meaning, fits⟩
  · rintro ⟨t, f, ht, flat, meaning, fits⟩
    simp only [compile, ht, if_neg (Nat.not_lt.2 flat), meaning, fits, if_true]

/-- A whole text between the ends of a text means what it means by itself, between the ends. -/
theorem Whole.compile_anchored {s : List Char} (h : Whole s) {e : Expr CharClass Look} :
    compile (anchored s) = .ok e ↔ ∃ t e' f, Tree.read? s = some t ∧ t.depth + 2 ≤ depthLimit ∧
      t.meaning? {} = some (e', f) ∧ (enclosed e').fits = true ∧ e = enclosed e' := by
  obtain ⟨t, ht⟩ := Option.isSome_iff_exists.1 h.1
  rw [compile_eq_ok_iff, h.read?_anchored ht]
  constructor
  · rintro ⟨u, f, hu, flat, meaning, fits⟩
    obtain rfl : t.enclosed = u := Option.some.inj hu
    rw [t.depth_enclosed] at flat
    rw [t.meaning?_enclosed] at meaning
    obtain ⟨⟨e', f'⟩, meaning', eq⟩ := Option.map_eq_some_iff.1 meaning
    obtain rfl : enclosed e' = e := congrArg Prod.fst eq
    exact ⟨t, e', f', ht, flat, meaning', fits, rfl⟩
  · rintro ⟨u, e', f, hu, flat, meaning, fits, rfl⟩
    obtain rfl : t = u := Option.some.inj (ht.symm.trans hu)
    refine ⟨t.enclosed, {}, rfl, ?_, ?_, fits⟩
    · rw [t.depth_enclosed]
      exact flat
    · rw [t.meaning?_enclosed, meaning]
      rfl

end Pattern

/-- The matcher of a source that is a pattern by itself accepts a text exactly if the expression of
the source matches the text from its first to its last character. -/
theorem accepts_iff_spans {source : String} {e : Pattern.Expr Pattern.CharClass Pattern.Look}
    {m : Matcher} (valid : Pattern.expr? source.toList = some e)
    (accepted : (MatcherSource.pattern source).compile = .ok m) (text : String) :
    m.accepts text = true ↔ Pattern.Spans e text.toList 0 text.toList.length := by
  obtain ⟨t, ht, valid⟩ := Option.bind_eq_some_iff.1 valid
  obtain ⟨⟨_, f⟩, meaning, rfl⟩ := Option.map_eq_some_iff.1 valid
  obtain ⟨p, read, rfl⟩ := MatcherSource.compile_pattern_eq_ok_iff.1 accepted
  obtain ⟨rfl, compiled⟩ := StepPattern.read_eq_ok_iff.1 read
  obtain ⟨u, -, hu, -⟩ := Pattern.compile_eq_ok_iff.1 compiled
  -- the source cannot close the group, as it is a pattern by itself
  have whole : Pattern.Whole p.source.toList := by
    rcases Pattern.whole_or_closesGroup_of_anchored (by rw [hu]; rfl) with whole | closes
    · exact whole
    · rw [closes.read?_eq_none] at ht
      cases ht
  obtain ⟨t', e', f', ht', -, meaning', -, expr⟩ := whole.compile_anchored.1 compiled
  obtain rfl : t = t' := Option.some.inj (ht.symm.trans ht')
  obtain ⟨rfl, rfl⟩ := Prod.mk.inj (Option.some.inj (meaning.symm.trans meaning'))
  show Pattern.isMatch p.expr text.toList = true ↔ _
  rw [Pattern.isMatch_iff, expr, Pattern.finds_enclosed]

/-- A single character, for the sources below. -/
def Pattern.letter (c : Char) : Pattern.Expr Pattern.CharClass Pattern.Look :=
  .one ⟨CharSet.single c, false⟩

open Pattern in
theorem accepts_iff_spans_of_branches : ∃ m, (MatcherSource.pattern "a|ab??").compile = .ok m ∧
    m.accepts "ab" = true := by
  have compiled : compile (anchored "a|ab??".toList) = .ok (enclosed
      (.alt (letter 'a') (.seq (letter 'a') (.times 0 (some 1) true (letter 'b'))))) := by
    cbv
  have valid : expr? "a|ab??".toList =
      some (.alt (letter 'a') (.seq (letter 'a') (.times 0 (some 1) true (letter 'b')))) := by
    cbv
  have accepted := MatcherSource.compile_pattern_eq_ok_iff.2
    ⟨⟨_, _, compiled⟩, StepPattern.read_eq_ok_iff.2 ⟨rfl, compiled⟩, rfl⟩
  have a_spans : Spans (letter 'a') ['a', 'b'] 0 1 := ⟨⟨'a', rfl, by decide⟩, rfl⟩
  have b_spans : Spans (letter 'b') ['a', 'b'] 1 2 := ⟨⟨'b', rfl, by decide⟩, rfl⟩
  refine ⟨_, accepted, (accepts_iff_spans valid accepted "ab").2 (.inr ⟨1, a_spans, 1, ?_⟩)⟩
  exact ⟨Nat.zero_le 1, fun h hm => (Option.some.inj hm).le, 2, b_spans, rfl⟩

/-! ### Which sources are accepted -/

/-- A source that cannot close the group around it is accepted exactly if it is a pattern at the end
of which the closing parenthesis is seen, and one that is neither nested too deep nor too large
between the ends of the text. A source that closes the group is no pattern by itself. Every refusal
comes with the source. -/
theorem StepPattern.read_settled (source : String) :
    (∀ err, read source = .error err → err.source = source) ∧
    (Pattern.ClosesGroup source.toList → Pattern.Tree.read? source.toList = none) ∧
    (¬Pattern.ClosesGroup source.toList →
      ((∃ p, read source = .ok p) ↔
        ∃ t e f, Pattern.Tree.read? source.toList = some t ∧
          Pattern.Tree.read? (source.toList ++ [')']) = none ∧
          t.depth + 2 ≤ Pattern.depthLimit ∧ t.meaning? {} = some (e, f) ∧
          (Pattern.enclosed e).fits = true)) := by
  refine ⟨fun err h => (read_eq_error_iff.1 h).1, Pattern.ClosesGroup.read?_eq_none,
    fun inside => ⟨?_, ?_⟩⟩
  · rintro ⟨p, h⟩
    obtain ⟨rfl, compiled⟩ := read_eq_ok_iff.1 h
    obtain ⟨u, -, hu, -⟩ := Pattern.compile_eq_ok_iff.1 compiled
    have whole := (Pattern.whole_or_closesGroup_of_anchored (by rw [hu]; rfl)).resolve_right inside
    obtain ⟨t, e, f, ht, flat, meaning, fits, -⟩ := whole.compile_anchored.1 compiled
    exact ⟨t, e, f, ht, whole.2, flat, meaning, fits⟩
  · rintro ⟨t, e, f, ht, seen, flat, meaning, fits⟩
    have whole : Pattern.Whole source.toList := ⟨by rw [ht]; rfl, seen⟩
    have compiled := whole.compile_anchored.2 ⟨t, e, f, ht, flat, meaning, fits, rfl⟩
    exact ⟨⟨source, _, compiled⟩, read_eq_ok_iff.2 ⟨rfl, compiled⟩⟩

open Pattern in
/-- The source with the closing parenthesis is no pattern by itself, and one without it is read. -/
theorem StepPattern.read_settled_of_letter :
    Tree.read? "a)|(?:b".toList = none ∧ ∃ p, read "a" = .ok p := by
  have closes : ClosesGroup "a)|(?:b".toList :=
    ⟨['a'], ['|', '(', '?', ':', 'b'], rfl, by decide⟩
  have inside : ¬ClosesGroup "a".toList := by
    rintro ⟨a, b, split, -⟩
    have paren : ')' ∈ "a".toList := split ▸ by simp
    exact absurd paren (by decide)
  have fits : (enclosed (letter 'a')).fits = true := by cbv
  have meaning : (Tree.literal ⟨'a', false⟩).meaning? {} = some (letter 'a', {}) := rfl
  exact ⟨(read_settled _).2.1 closes, ((read_settled _).2.2 inside).2
    ⟨_, _, _, rfl, rfl, by decide, meaning, fits⟩⟩

open Pattern in
/-- A source that closes the group is accepted although it is no pattern, and then a part of a text
is enough; a pattern that ends in a comment is refused. -/
theorem StepPattern.read_of_closing :
    (∃ p, read "a)|(?:b" = .ok p ∧ p.accepts "ax" = true) ∧
      compile "a)|(?:b".toList = .error .unreadable ∧
      read "(?x)a #c" = .error ⟨"(?x)a #c", .unreadable⟩ ∧
      compile "(?x)a #c".toList = .ok (.seq .empty (letter 'a')) := by
  have compiled : compile (anchored "a)|(?:b".toList) =
      .ok (.alt (.seq (.look .start) (.group false (letter 'a')))
        (.seq (.group false (letter 'b')) (.look .stop))) := by
    cbv
  have found : isMatch (.alt (.seq (.look .start) (.group false (letter 'a')))
      (.seq (.group false (letter 'b')) (.look .stop))) "ax".toList = true := by
    decide +kernel
  have swallowed : compile (anchored "(?x)a #c".toList) = .error .unreadable := rfl
  refine ⟨⟨⟨_, _, compiled⟩, read_eq_ok_iff.2 ⟨rfl, compiled⟩, found⟩, rfl,
    read_eq_error_iff.2 ⟨rfl, swallowed⟩, ?_⟩
  cbv

end Acceptance
