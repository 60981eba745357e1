import Acceptance.FileTree
import Acceptance.Gherkin.Expansion
import Acceptance.Gherkin.Grammar

/-!
# Features from text and files

* `Feature.ofSource` reads the text of a feature file.
* `Feature.ofFile` reads a file of a working tree.
* `SourceError` holds the failures and `SourceError.message` their texts.
-/

namespace Acceptance

open Gherkin

/-- The reasons for which the content of a file cannot be had. -/
inductive ReadFailure where
  | file (e : FileError)
  | notText
deriving DecidableEq, Repr

/-- The text of a failure. -/
def ReadFailure.message : ReadFailure → String
  | .file e => e.message
  | .notText => "stream did not contain valid UTF-8"

/-- The reasons for which there is no feature. -/
inductive SourceError where
  | malformed
  | unreadable (path : String) (e : ReadFailure)
  | rowWidth (e : RowWidthError)
deriving DecidableEq, Repr

/-- The message of a failure; `detail` describes what is wrong with a text that is no feature file.
-/
def SourceError.message (detail : String) : SourceError → String
  | .malformed => s!"failed to parse feature: {detail}"
  | .unreadable path e => s!"failed to read feature file {path}: {e.message}"
  | .rowWidth e => e.message

/-- The feature of a text. -/
def Feature.ofSource (source : String) : Logged (Except SourceError Feature) :=
  match Document.read? source with
  | none => pure (.error .malformed)
  | some d => do return (← d.toFeature).mapError .rowWidth

/-- The text of a file. -/
def WorkingTree.readText (t : WorkingTree) (path : String) : Except ReadFailure String :=
  match t.read path with
  | .error e => .error (.file e)
  | .ok bytes =>
    match String.fromUTF8? bytes with
    | some s => .ok s
    | none => .error .notText

/-- The feature of a file. -/
def Feature.ofFile (t : WorkingTree) (path : String) : Logged (Except SourceError Feature) :=
  match t.readText path with
  | .error e => pure (.error (.unreadable path e))
  | .ok source => do
    Logged.tell .debug s!"parsing feature file {path}"
    Feature.ofSource source

end Acceptance
