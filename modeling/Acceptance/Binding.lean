import Acceptance.Resolution

/-!
# Binding features to an adapter

Features are resolved one after the other, and each is handed to an adapter that decides how its
scenarios are registered and run. The adapter gets programs, not data: it may run the program of a
feature any number of times, and the program of a scenario any number of times. What they define
does not depend on how often they run, and neither do the diagnostics.

* `StepBinder`, `ScenarioRegistrar` and `Adapter` are what the two sides offer each other. An
  adapter works on a state `S` and may write log records.
* `bindWith` resolves features against a registry and hands them over.
* `bindModules` first registers the definitions of some modules and warns about duplicates.
* `checkOnly` is the adapter that runs every program once and does nothing else.
-/

namespace Acceptance

variable {σ S : Type}

/-- The effects of an adapter: a state and log records. -/
abbrev AdapterM (S : Type) := StateT S Logged

/-- Writes a log record. -/
def AdapterM.tell (level : Level) (text : String) : AdapterM S Unit :=
  fun s => do
    Logged.tell level text
    return ((), s)

/-- Takes the steps of a scenario. -/
structure StepBinder (σ S : Type) where
  defineStep : Matcher → Handler σ → AdapterM S Unit

/-- Takes the scenarios of a feature, each with its title and the program that defines its steps. -/
structure ScenarioRegistrar (σ S : Type) where
  test : String → (StepBinder σ S → AdapterM S Unit) → AdapterM S Unit

/-- Takes features, each with the program that defines its scenarios. -/
structure Adapter (σ S : Type) where
  defineFeature : Feature → (ScenarioRegistrar σ S → AdapterM S Unit) → AdapterM S Unit

/-- The program that defines the bound steps of a scenario. -/
def Binding.defineSteps (b : Binding σ) (steps : StepBinder σ S) : AdapterM S Unit :=
  b.bound.forM fun x => steps.defineStep x.registration.matcher x.registration.handler

/-- The program that defines scenarios. -/
def defineScenarios (bs : List (Binding σ)) (tests : ScenarioRegistrar σ S) : AdapterM S Unit :=
  bs.forM fun b => tests.test b.scenario b.defineSteps

/-- Resolves features in order and hands each to the adapter. -/
def bindFeatures (r : Registry σ) (a : Adapter σ S) :
    List Feature → DiagnosticLog → AdapterM S DiagnosticLog
  | [], log => pure log
  | f :: fs, log => do
    let found ← r.resolveFeature f
    let log ← log.extend found.diagnostics
    a.defineFeature f (defineScenarios found.bindings)
    bindFeatures r a fs log

/-- Resolves features against a registry and hands them to an adapter. -/
def bindWith (fs : List Feature) (r : Registry σ) (a : Adapter σ S) :
    AdapterM S (Except BindingFailure Unit) := do
  let log ← bindFeatures r a fs .empty
  AdapterM.tell .info
    (s!"bound {fs.length} features against {r.size} step definitions " ++
      s!"with {log.size} diagnostics")
  return conclude log.entries

/-! ## Checking only -/

/-- The binder that takes steps and does nothing. -/
def ignoreSteps : StepBinder σ S := ⟨fun _ _ => pure ()⟩

/-- The registrar that runs the program of each scenario once. -/
def ignoreScenarios : ScenarioRegistrar σ S := ⟨fun _ body => body ignoreSteps⟩

/-- The adapter that runs every program once and registers nothing. -/
def checkOnly : Adapter σ S := ⟨fun _ tests => tests ignoreScenarios⟩

/-- Resolves features against a registry. -/
def checkFeatures (fs : List Feature) (r : Registry σ) : Logged (Except BindingFailure Unit) := do
  return (← (bindWith fs r checkOnly : AdapterM Unit _).run ()).1

/-! ## Modules -/

/-- The failures of binding the features to modules. -/
inductive BindError where
  | definition (e : MatcherError)
  | unresolved (f : BindingFailure)

namespace BindError

/-- The failure of a run with unbound steps. -/
def asUnresolved? : BindError → Option BindingFailure
  | .definition _ => none
  | .unresolved f => some f

/-- The message of a failure; `detail` describes the fault of a bad pattern. -/
def message (detail : String) : BindError → String
  | .definition e => s!"step definition registration failed: {e.message detail}"
  | .unresolved f => f.message

end BindError

/-- The warning about definitions with the same matcher. -/
def duplicateWarning (m : Matcher) (group : List (Registration σ)) : String :=
  let ids := ", ".intercalate (group.map fun x => idText x.id)
  s!"matcher {m} is registered {group.length} times ({ids}); steps it matches will be ambiguous"

/-- Warns about each group of definitions with the same matcher. -/
def warnDuplicates (r : Registry σ) : Logged Unit :=
  r.duplicates.forM fun group =>
    match group with
    | [] => pure ()
    | x :: _ => Logged.tell .warn (duplicateWarning x.matcher group)

/-- Registers the definitions of modules, then resolves features and hands them to an adapter. -/
def bindModules (fs : List Feature) (ms : List (Module σ)) (a : Adapter σ S) :
    AdapterM S (Except BindError Unit) := do
  match ← (Registry.ofModules ms : Logged _) with
  | .error e => return .error (.definition e)
  | .ok r =>
    warnDuplicates r
    return (← bindWith fs r a).mapError .unresolved

end Acceptance
