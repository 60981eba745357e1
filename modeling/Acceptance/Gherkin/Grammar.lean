import Acceptance.Gherkin.Document
import Acceptance.Gherkin.Rule
import Acceptance.Text.Blank

/-!
# The grammar of feature files

One rule for each part of a feature file, from blanks to the whole file.

* `steps`, `background`, `scenario`, `rule` and `feature` read the parts of a `Document`.
* `Document.read?` reads a file. Only names, steps and examples are kept; comments, tags,
  descriptions and the arguments of steps are read and forgotten.
* Two faults spoil a file no matter how the rest of it reads: a row of a table that is shorter than
  its first row, and a language without a dialect.
-/

namespace Acceptance.Gherkin

open Rule

/-! ## Blanks, lines and comments -/

/-- Whether a character is a space or a tab. -/
def isSpacing (c : Char) : Bool := c == ' ' || c == '\t'

/-- A space or a tab. -/
def blankChar : Rule Unit := ignore (satisfy isSpacing)

/-- Spaces and tabs. -/
def blanks : Rule Unit := skipWhile isSpacing

/-- The end of a line. -/
def newline : Rule Unit := text "\r\n" <|> text "\n"

/-- A character that does not end a line. -/
def lineChar : Rule Char := do
  absent newline
  any

/-- A comment without the end of its line. -/
def commentText : Rule Unit := do
  blanks
  text "#"
  ignore (many lineChar)

/-- The end of a line, perhaps after a comment. -/
def lineEnd : Rule Unit := do
  let _ ← optional commentText
  newline

/-- Blanks, ends of lines and comments, at least one; or the end of the file. -/
def lineEnds : Rule Unit :=
  ignore (many1 (lineEnd <|> blankChar)) <|> ended

/-- Blanks, ends of lines and comments. -/
def filler : Rule Unit := ignore (many (blankChar <|> lineEnd))

/-- A comment with the lines after it. -/
def comment : Rule Unit := do
  commentText
  lineEnds

/-- The rest of a line, which must not be empty. -/
def restOfLine : Rule String := do
  return String.ofList (← many1 lineChar)

/-- Comments before a word that opens a part. -/
def opening (words : List String) : Rule Unit := do
  ignore (many comment)
  keyword words

/-- The same for words of the dialect. -/
def openingOf (words : Dialect → List String) : Rule Unit := do
  opening (words (← reading).dialect)

/-! ## Arguments of steps -/

/-- A text between two marks. -/
def quotedBlock (mark : String) : Rule Unit := do
  text mark
  ignore (many (do
    absent (text mark)
    lineEnd <|> ignore any))
  text mark
  lineEnds

/-- A text over several lines. -/
def docString : Rule Unit := quotedBlock "\"\"\"" <|> quotedBlock "```"

/-- A cell of a table with the bar before it. -/
def tableCell : Rule String := do
  text "|"
  blanks
  absent (newline <|> ended)
  let content ← many (do
    absent (text "|" <|> newline)
    any)
  return String.ofList (Text.trim content)

/-- A row of a table. -/
def tableRow : Rule (List String) := do
  let cells ← sepBy tableCell blanks
  blanks
  text "|"
  blanks
  lineEnds
  return cells

/-- Rows as wide as the first one: longer rows are cut, and there is no table if a row is shorter.
-/
def squareRows? (rows : Table) : Option Table :=
  let width := (rows.headD []).length
  if rows.all fun r => width ≤ r.length then some (rows.map (List.take width)) else none

/-- A table. -/
def table : Rule Table := do
  blanks
  let rows ← sepBy1 tableRow blanks
  match squareRows? rows with
  | some t => return t
  | none => spoil

/-! ## Steps -/

/-- What follows the word that opens a step: its text and an argument. -/
def stepBody : Rule String := do
  blanks
  let line ← restOfLine
  blanks
  lineEnds
  blanks
  let _ ← optional docString
  let _ ← optional table
  return Text.rightTrimmed line

/-- A step that says what kind of step it is. -/
def leadingStep (words : Dialect → List String) : Rule String := do
  openingOf words
  let line ← stepBody
  note fun st => { st with afterStep := true }
  return line

/-- A step of the same kind as the one before it, which must be there. -/
def followingStep (words : Dialect → List String) : Rule String := do
  openingOf words
  let line ← stepBody
  if (← reading).afterStep then return line else fail

/-- A step. -/
def step : Rule String :=
  leadingStep Dialect.given <|> leadingStep Dialect.when <|> leadingStep Dialect.then_ <|>
    followingStep Dialect.and <|> followingStep Dialect.but

/-- The steps of a block. -/
def steps : Rule (List String) := do
  let found ← sepBy step blanks
  note fun st => { st with afterStep := false }
  return found

/-! ## Descriptions and tags -/

/-- The words that open a block outside of a scenario. -/
def scenarioWords (d : Dialect) : List String := d.scenario ++ d.outline

/-- The words that open a step. -/
def stepWords (d : Dialect) : List String := d.given ++ d.when ++ d.then_ ++ d.and ++ d.but

/-- The words that end the description of a feature. -/
def afterFeature (d : Dialect) : List String := d.background ++ d.rule ++ scenarioWords d

/-- The words that end the description of a rule. -/
def afterRule (d : Dialect) : List String := d.background ++ scenarioWords d

/-- The words that end the description of a background or of a scenario. -/
def afterScenario (d : Dialect) : List String := scenarioWords d ++ stepWords d

/-- The words that end the description of examples. -/
def afterExamples (d : Dialect) : List String := afterScenario d ++ ["|"]

/-- A line of a description. -/
def descriptionLine (words : Dialect → List String) : Rule Unit := do
  blanks
  absent (text "@")
  absent (openingOf words)
  blanks
  let _ ← restOfLine
  lineEnds

/-- A description: lines up to one that starts with a tag or with one of some words. -/
def description (words : Dialect → List String) : Rule Unit := do
  ignore (sepBy (descriptionLine words) blanks)
  filler

/-- A tag. -/
def tag : Rule Unit := do
  text "@"
  ignore (many1 (satisfy fun c => !Text.isBlank c && c != '@'))

/-- Tags with the lines after them. -/
def tags : Rule Unit := do
  ignore (sepBy tag filler)
  blanks
  ignore (many lineEnd)

/-! ## Parts of a file -/

/-- The line that opens a part: a word, a colon and a name. -/
def heading (words : Dialect → List String) : Rule String := do
  openingOf words
  text ":"
  blanks
  let name ← optional restOfLine
  blanks
  lineEnds
  return Text.rightTrimmed (name.getD "")

/-- A background. -/
def background : Rule (List String) := do
  ignore (many comment)
  blanks
  let _ ← heading Dialect.background
  description afterScenario
  steps

/-- A block of examples. -/
def examples : Rule (Option Table) := do
  ignore (many comment)
  blanks
  tags
  blanks
  let _ ← heading Dialect.examples
  description afterExamples
  optional table

/-- A scenario that is opened by some words. -/
def scenarioOf (words : Dialect → List String) : Rule DocumentScenario := do
  ignore (many comment)
  blanks
  tags
  blanks
  let name ← heading words
  description afterScenario
  let steps ← steps
  let examples ← many examples
  return ⟨name, steps, examples⟩

/-- A scenario or an outline. -/
def scenario : Rule DocumentScenario :=
  scenarioOf Dialect.scenario <|> scenarioOf Dialect.outline

/-- Scenarios in a row. -/
def scenarios : Rule (List DocumentScenario) := do
  blanks
  sepBy scenario blanks

/-- A rule of the feature. -/
def rule : Rule DocumentRule := do
  blanks
  tags
  blanks
  let _ ← heading Dialect.rule
  description afterRule
  let background ← optional background
  ignore (many lineEnd)
  let scenarios ← scenarios
  ignore (many lineEnd)
  return ⟨background.getD [], scenarios⟩

/-- Rules in a row. -/
def rules : Rule (List DocumentRule) := do
  blanks
  sepBy rule blanks

/-- A line that names the language of the file. -/
def languageLine : Rule Unit := do
  ignore (many (blankChar <|> newline))
  text "#"
  blanks
  text "language"
  blanks
  text ":"
  blanks
  let name ← restOfLine
  blanks
  lineEnd
  match Dialect.named? name with
  | some dialect => note fun st => { st with dialect }
  | none => spoil

/-- A whole file. -/
def feature : Rule Document := do
  blanks
  let _ ← optional languageLine
  ignore (many lineEnd)
  tags
  let name ← heading Dialect.feature
  description afterFeature
  let background ← optional background
  ignore (many lineEnd)
  let scenarios ← scenarios
  ignore (many lineEnd)
  let rules ← rules
  ignore (many lineEnd)
  if (← reading).spoiled then fail
  ended
  return ⟨name, background.getD [], scenarios, rules⟩

/-- The file with an end of line after its last line. -/
def closeLastLine (s : List Char) : List Char :=
  if s.getLast? = some '\n' then s else s ++ ['\n']

/-- Reads a feature file. -/
def Document.read? (source : String) : Option Document :=
  let s := closeLastLine source.toList
  match (feature (.start s.length) s).1 with
  | some (d, _) => some d
  | none => none

end Acceptance.Gherkin
