import Acceptance.Handler
import Acceptance.Keyword
import Acceptance.Logged
import Acceptance.Matcher

/-!
# The registry of step definitions

Step definitions are kept in the order in which they were registered. Registering a matcher twice
gives two entries, and both match.

* `Registry.register` adds a definition, `Registry.matching` finds those that accept a text.
* `Registry.duplicates` groups the definitions whose matchers are equal, in one pass over them:
  `Grouping` remembers which group belongs to a matcher.
* A `Module` is a list of definitions; `Registry.ofModules` registers modules, and fails at the
  first bad pattern.
-/

namespace Acceptance

variable {σ : Type}

/-- A registered step definition. Its position in the registry identifies it. -/
structure Registration (σ : Type) where
  id : Nat
  keyword : Keyword
  matcher : Matcher
  handler : Handler σ

/-- The written form of the position of a definition. -/
def idText (id : Nat) : String := s!"#{id}"

/-- Definitions in groups by their matchers, with the place of the group of each matcher. -/
structure Grouping (σ : Type) where
  slots : List (Matcher × Nat)
  groups : List (List (Registration σ))

namespace Grouping

/-- No definitions. -/
def empty : Grouping σ := ⟨[], []⟩

/-- Adds a definition to the group of its matcher, or as a new group at the end. -/
def add (x : Registration σ) (g : Grouping σ) : Grouping σ :=
  match g.slots.lookup x.matcher with
  | some slot => { g with groups := g.groups.modify slot (· ++ [x]) }
  | none => ⟨(x.matcher, g.groups.length) :: g.slots, g.groups ++ [[x]]⟩

end Grouping

/-- Step definitions in the order of registration. -/
structure Registry (σ : Type) where
  registrations : List (Registration σ)

namespace Registry

/-- The registry without definitions. -/
def empty : Registry σ := ⟨[]⟩

/-- The number of definitions. -/
def size (r : Registry σ) : Nat := r.registrations.length

/-- Whether there are no definitions. -/
def isEmpty (r : Registry σ) : Bool := r.registrations.isEmpty

/-- The registry with one more definition. -/
def add (k : Keyword) (m : Matcher) (h : Handler σ) (r : Registry σ) : Registry σ :=
  ⟨r.registrations ++ [⟨r.size, k, m, h⟩]⟩

/-- Registers a definition; its position is the size of the registry before. -/
def register (k : Keyword) (m : Matcher) (h : Handler σ) (r : Registry σ) :
    Logged (Registry σ) := do
  Logged.tell .trace s!"registering {k} {m} as {idText r.size}"
  return r.add k m h

/-- The definition at a position. -/
def get? (id : Nat) (r : Registry σ) : Option (Registration σ) := r.registrations[id]?

/-- The definitions that accept a text, in the order of registration. -/
def matching (text : String) (r : Registry σ) : List (Registration σ) :=
  r.registrations.filter fun x => x.matcher.accepts text

/-- The definitions that share their matcher with another one: groups in the order of their first
members, members in the order of registration. -/
def duplicates (r : Registry σ) : List (List (Registration σ)) :=
  (r.registrations.foldl (fun g x => g.add x) Grouping.empty).groups.filter fun g => 1 < g.length

@[simp] theorem registrations_empty : (empty : Registry σ).registrations = [] := rfl

@[simp] theorem registrations_add (k : Keyword) (m : Matcher) (h : Handler σ) (r : Registry σ) :
    (r.add k m h).registrations = r.registrations ++ [⟨r.size, k, m, h⟩] := rfl

@[simp] theorem size_add (k : Keyword) (m : Matcher) (h : Handler σ) (r : Registry σ) :
    (r.add k m h).size = r.size + 1 := by
  simp [size]

@[simp] theorem value_register (k : Keyword) (m : Matcher) (h : Handler σ) (r : Registry σ) :
    (r.register k m h).value = r.add k m h := rfl

end Registry

/-! ## Modules of definitions -/

/-- A step definition as it is written in a module. A pending one is noted and not registered. -/
inductive Definition (σ : Type) where
  | define (keyword : Keyword) (matcher : MatcherSource) (handler : Handler σ)
  | pending (matcher : MatcherSource)

/-- A module of step definitions. -/
abbrev Module (σ : Type) := List (Definition σ)

/-- The matcher of a definition as it is written. -/
def Definition.matcher : Definition σ → MatcherSource
  | .define _ m _ => m
  | .pending m => m

/-- Runs one definition. Its pattern is compiled first. -/
def Definition.run (d : Definition σ) (r : Registry σ) :
    Logged (Except MatcherError (Registry σ)) :=
  match d.matcher.compile with
  | .error e => pure (.error e)
  | .ok m =>
    match d with
    | .define k _ h => do return .ok (← r.register k m h)
    | .pending _ => do
      Logged.tell .debug s!"step {m} is pending"
      return .ok r

/-- Runs definitions in order, up to the first bad pattern. -/
def Registry.run : List (Definition σ) → Registry σ → Logged (Except MatcherError (Registry σ))
  | [], r => pure (.ok r)
  | d :: ds, r => do
    match ← d.run r with
    | .ok r => run ds r
    | .error e => return .error e

/-- The registry of the definitions of some modules. -/
def Registry.ofModules (ms : List (Module σ)) : Logged (Except MatcherError (Registry σ)) := do
  match ← Registry.run ms.flatten .empty with
  | .error e => return .error e
  | .ok r =>
    Logged.tell .debug s!"registered {r.size} step definitions from {ms.length} modules"
    return .ok r

end Acceptance
