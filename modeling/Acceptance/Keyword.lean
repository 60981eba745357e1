import Acceptance.Text.Blank

/-!
# Step keywords

A step definition is registered under one of six keywords. The keyword is written in diagnostics and
has no part in matching.

* `Keyword.text` is the written form, `Keyword.read` reads it without regard to the case of ASCII
  letters and to blanks around it; `Keyword.readAmong` tries the keywords of a list.
* `KeywordError` is the answer to any other text; it keeps the text without the blanks around it.
* `Keyword.ofKind` is the keyword of a kind of step in a feature file.
-/

namespace Acceptance

/-- The keywords of step definitions. -/
inductive Keyword where
  | given
  | when
  | then_
  | and
  | but
  | step
deriving DecidableEq, Repr

/-- The kinds of steps in a feature file. -/
inductive StepKind where
  | given
  | when
  | then_
deriving DecidableEq, Repr

/-- A text that is no keyword, without the blanks around it. -/
structure KeywordError where
  value : String
deriving DecidableEq, Repr

/-- The message of a text that is no keyword. -/
def KeywordError.message (e : KeywordError) : String :=
  s!"invalid step keyword: {e.value}"

namespace Keyword

/-- The written form of a keyword. -/
def text : Keyword → String
  | .given => "Given"
  | .when => "When"
  | .then_ => "Then"
  | .and => "And"
  | .but => "But"
  | .step => "Step"

instance : ToString Keyword := ⟨text⟩

/-- All keywords. -/
def all : List Keyword := [.given, .when, .then_, .and, .but, .step]

theorem mem_all (k : Keyword) : k ∈ all := by
  cases k <;> decide

/-- The written forms of two keywords differ in more than case. -/
theorem eq_of_lowerAscii_text {k k' : Keyword}
    (h : Text.lowerAscii k.text.toList = Text.lowerAscii k'.text.toList) : k = k' := by
  cases k <;> cases k' <;> first | rfl | exact absurd h (by decide)

/-- Whether a text is the written form of a keyword up to the case of ASCII letters. -/
def isWritten (s : List Char) (k : Keyword) : Bool :=
  Text.lowerAscii s == Text.lowerAscii k.text.toList

/-- Reads one of some keywords, which are tried in the order of the list. -/
def readAmong (ks : List Keyword) (s : String) : Except KeywordError Keyword :=
  let core := Text.trim s.toList
  match ks.find? (isWritten core) with
  | some k => .ok k
  | none => .error ⟨String.ofList core⟩

/-- Reads a keyword. -/
def read (s : String) : Except KeywordError Keyword :=
  readAmong all s

/-- The keyword of a kind of step. -/
def ofKind : StepKind → Keyword
  | .given => .given
  | .when => .when
  | .then_ => .then_

end Keyword

end Acceptance
