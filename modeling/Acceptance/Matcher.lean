import Acceptance.Pattern.Compile

/-!
# Matchers

A step definition says which step texts it is for: one text, or all texts that a pattern describes
from their first to their last character.

* `StepPattern` is a pattern that compiles; `StepPattern.read` makes one from its source.
* `Matcher` is a literal text or a pattern, `Matcher.matches` decides about a text.
* `MatcherSource` is a matcher as it is written in a definition.
-/

namespace Acceptance

/-- The source of a pattern that could not be compiled, with the reason. -/
structure MatcherError where
  source : String
  fault : Pattern.Fault
deriving DecidableEq, Repr

/-- The message of a bad pattern; `detail` describes the fault. -/
def MatcherError.message (detail : String) (e : MatcherError) : String :=
  s!"invalid step pattern /{e.source}/: {detail}"

/-- The text that is compiled for a pattern: the source in a group, between the two ends of a text.
-/
def anchored (source : List Char) : List Char :=
  "^(?:".toList ++ source ++ ")$".toList

/-- A pattern for whole step texts. -/
structure StepPattern where
  source : String
  expr : Pattern.Expr Pattern.CharClass Pattern.Look
  compiled : Pattern.compile (anchored source.toList) = .ok expr

namespace StepPattern

/-- Compiles a pattern. -/
def read (source : String) : Except MatcherError StepPattern :=
  match h : Pattern.compile (anchored source.toList) with
  | .ok expr => .ok ⟨source, expr, h⟩
  | .error fault => .error ⟨source, fault⟩

/-- Whether the pattern matches a text. -/
def accepts (p : StepPattern) (text : String) : Bool :=
  Pattern.isMatch p.expr text.toList

/-- Patterns are told apart by their sources. -/
theorem ext_source {p q : StepPattern} (h : p.source = q.source) : p = q := by
  obtain ⟨s, e, hs⟩ := p
  obtain ⟨t, f, ht⟩ := q
  obtain rfl : s = t := h
  obtain rfl : e = f := Except.ok.inj (hs.symm.trans ht)
  rfl

instance : DecidableEq StepPattern := fun p q =>
  if h : p.source = q.source then isTrue (ext_source h) else isFalse fun e => h (e ▸ rfl)

theorem read_eq_ok_iff {source : String} {p : StepPattern} :
    read source = .ok p ↔
      p.source = source ∧ Pattern.compile (anchored source.toList) = .ok p.expr := by
  constructor
  · intro h
    unfold read at h
    split at h
    · next expr compiled =>
      obtain rfl := Except.ok.inj h
      exact ⟨rfl, compiled⟩
    · cases h
  · rintro ⟨rfl, compiled⟩
    unfold read
    split
    · next expr h =>
      exact congrArg Except.ok (ext_source rfl)
    · next fault h =>
      rw [p.compiled] at h
      cases h

theorem read_eq_error_iff {source : String} {err : MatcherError} :
    read source = .error err ↔
      err.source = source ∧ Pattern.compile (anchored source.toList) = .error err.fault := by
  obtain ⟨name, fault⟩ := err
  constructor
  · intro h
    unfold read at h
    split at h
    · cases h
    · next compiled =>
      obtain ⟨rfl, rfl⟩ := MatcherError.mk.inj (Except.error.inj h)
      exact ⟨rfl, compiled⟩
  · rintro ⟨rfl, compiled⟩
    unfold read
    split
    · next h =>
      rw [compiled] at h
      cases h
    · next other h =>
      obtain rfl : fault = other := Except.error.inj (compiled.symm.trans h)
      rfl

end StepPattern

/-- The texts a step definition is for. -/
inductive Matcher where
  | literal (text : String)
  | pattern (p : StepPattern)
deriving DecidableEq

namespace Matcher

/-- Whether the matcher accepts a text. -/
def accepts (text : String) : Matcher → Bool
  | .literal t => t == text
  | .pattern p => p.accepts text

/-- The text or pattern as it was written. -/
def source : Matcher → String
  | .literal t => t
  | .pattern p => p.source

/-- Whether the matcher is a pattern. -/
def isPattern : Matcher → Bool
  | .literal _ => false
  | .pattern _ => true

/-- The text that shows a matcher: patterns stand between slashes. -/
def text : Matcher → String
  | .literal t => t
  | .pattern p => s!"/{p.source}/"

instance : ToString Matcher := ⟨text⟩

end Matcher

/-- A matcher as it is written. -/
inductive MatcherSource where
  | literal (text : String)
  | pattern (source : String)
deriving DecidableEq, Repr

/-- The matcher of a written one. -/
def MatcherSource.compile : MatcherSource → Except MatcherError Matcher
  | .literal t => .ok (.literal t)
  | .pattern s => (StepPattern.read s).map .pattern

theorem MatcherSource.compile_pattern_eq_ok_iff {source : String} {m : Matcher} :
    (MatcherSource.pattern source).compile = .ok m ↔
      ∃ p, StepPattern.read source = .ok p ∧ m = .pattern p := by
  rw [MatcherSource.compile]
  cases StepPattern.read source with
  | error e => exact iff_of_false nofun nofun
  | ok p =>
    constructor
    · intro h
      exact ⟨p, rfl, (Except.ok.inj h).symm⟩
    · rintro ⟨q, h, rfl⟩
      rw [Except.ok.inj h]
      rfl

/-- Only patterns are refused, and the refusal keeps their source. -/
theorem MatcherSource.compile_eq_error_iff {m : MatcherSource} {e : MatcherError} :
    m.compile = .error e ↔ m = .pattern e.source ∧ StepPattern.read e.source = .error e := by
  cases m with
  | literal t => exact iff_of_false nofun nofun
  | pattern s =>
    constructor
    · intro h
      have hr : StepPattern.read s = .error e := by
        rw [MatcherSource.compile] at h
        cases hr : StepPattern.read s with
        | error e' =>
          rw [hr] at h
          rw [show e' = e from Except.error.inj h]
        | ok p =>
          rw [hr] at h
          cases h
      obtain rfl := (StepPattern.read_eq_error_iff.1 hr).1
      exact ⟨rfl, hr⟩
    · rintro ⟨hs, hr⟩
      cases hs
      rw [MatcherSource.compile, hr]
      rfl

end Acceptance
