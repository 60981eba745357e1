import Acceptance.Gherkin.Dialect

/-!
# Rules of a grammar

A rule reads a piece of text from the front of the input. If it fails, the next alternative is tried
at the same place. What a rule notes in the state of the reading is kept even if the rule fails.

* `Rule α` is a rule with results in `α`; rules form a monad, and `p <|> q` is ordered choice.
* `Rule.many`, `Rule.sepBy`, `Rule.sepBy1`, `Rule.optional` and `Rule.absent` build larger rules.
* `Rule.text`, `Rule.satisfy`, `Rule.skipWhile`, `Rule.ended` and `Rule.keyword` read single pieces.
-/

namespace Acceptance.Gherkin

/-- What is known while a feature file is read: whether a step other than `And` and `But` came
before in the same block, whether something was found that no other reading of the file can mend,
and the length of the file, which bounds how often a rule can apply in a row. -/
structure Reading where
  dialect : Dialect
  afterStep : Bool
  spoiled : Bool
  limit : Nat
deriving DecidableEq, Repr

/-- The state before a file of some length is read. -/
def Reading.start (length : Nat) : Reading := ⟨.english, false, false, length⟩

/-- A rule: from a state and an input to a result with the rest of the input, if the rule applies,
and the state after it. -/
def Rule (α : Type) : Type :=
  Reading → List Char → Option (α × List Char) × Reading

namespace Rule

variable {α β : Type}

/-- The rule that reads nothing. -/
protected def pure (a : α) : Rule α := fun st s => (some (a, s), st)

/-- One rule after another. -/
protected def bind (p : Rule α) (f : α → Rule β) : Rule β := fun st s =>
  match p st s with
  | (some (a, rest), st) => f a st rest
  | (none, st) => (none, st)

instance : Monad Rule where
  pure := Rule.pure
  bind := Rule.bind

/-- The rule that never applies. -/
def fail : Rule α := fun st _ => (none, st)

/-- The first of two rules that applies. -/
def orElse (p : Rule α) (q : Unit → Rule α) : Rule α := fun st s =>
  match p st s with
  | (none, st) => q () st s
  | found => found

instance : OrElse (Rule α) := ⟨orElse⟩

/-- Changes the state. -/
def note (f : Reading → Reading) : Rule Unit := fun st s => (some ((), s), f st)

/-- The state. -/
def reading : Rule Reading := fun st s => (some (st, s), st)

/-- Changes the state for good and fails. -/
def spoil : Rule α := fun st _ => (none, { st with spoiled := true })

/-- A rule, or nothing where it does not apply. -/
def optional (p : Rule α) : Rule (Option α) :=
  (do return some (← p)) <|> pure none

/-- Applies where a rule does not, and reads nothing. -/
def absent (p : Rule α) : Rule Unit := fun st s =>
  match p st s with
  | (some _, st) => (none, st)
  | (none, st) => (some ((), s), st)

/-- A rule at most `n` times, as often as it applies. -/
def upTo (p : Rule α) : Nat → Rule (List α)
  | 0 => pure []
  | n + 1 => (do
    let a ← p
    return a :: (← upTo p n)) <|> pure []

/-- A rule as often as it applies. Each time it reads at least one character, so the length of the
file bounds their number. -/
def many (p : Rule α) : Rule (List α) := fun st s => upTo p st.limit st s

/-- A rule at least once. -/
def many1 (p : Rule α) : Rule (List α) := do
  let a ← p
  return a :: (← many p)

/-- A rule at least once, with another one between its pieces. -/
def sepBy1 (p : Rule α) (sep : Rule β) : Rule (List α) := do
  let a ← p
  return a :: (← many (do let _ ← sep; p))

/-- A rule as often as it applies, with another one between its pieces. -/
def sepBy (p : Rule α) (sep : Rule β) : Rule (List α) :=
  sepBy1 p sep <|> pure []

/-- Forgets the result of a rule. -/
def ignore (p : Rule α) : Rule Unit := do
  let _ ← p

/-! ## Single pieces -/

/-- A fixed text. -/
def text (t : String) : Rule Unit := fun st s =>
  if t.toList.isPrefixOf s then (some ((), s.drop t.length), st) else (none, st)

/-- One character with a property. -/
def satisfy (p : Char → Bool) : Rule Char := fun st s =>
  match s with
  | c :: rest => if p c then (some (c, rest), st) else (none, st)
  | [] => (none, st)

/-- All characters up to the first one without a property. -/
def skipWhile (p : Char → Bool) : Rule Unit := fun st s => (some ((), s.dropWhile p), st)

/-- Any character. -/
def any : Rule Char := satisfy fun _ => true

/-- The end of the input. -/
def ended : Rule Unit := fun st s => (if s.isEmpty then some ((), s) else none, st)

/-- The first word of a list that the input starts with. -/
def keyword (words : List String) : Rule Unit := fun st s =>
  match words.find? fun w => w.toList.isPrefixOf s with
  | some w => (some ((), s.drop w.length), st)
  | none => (none, st)

end Rule

end Acceptance.Gherkin
