import Acceptance.Text.Blank

/-!
# Placeholders

The steps of an outline hold placeholders such as `<amount>`, which stand for the columns of its
examples.

* `Placeholder.tokens` cuts a text into characters and placeholders, whatever columns there are.
* `Placeholder.cell?` asks a row for the cell of a name, and `Placeholder.fill` puts cells in the
  place of placeholders.
* `Placeholder.substitute` does both for a text. Cells are not looked through again.
-/

namespace Acceptance.Gherkin.Placeholder

/-- A part of a text: a character that stands for itself, or a placeholder with its name. -/
inductive Token where
  | char (c : Char)
  | placeholder (name : List Char)
deriving DecidableEq, Repr

/-- The text of a token. -/
def Token.chars : Token → List Char
  | .char c => [c]
  | .placeholder name => '<' :: name ++ ['>']

/-- The name of a placeholder that begins at the front of a text, after its opening bracket, and the
text after it. The name ends at the first closing bracket, and it is neither empty nor begins with a
blank. -/
def nameAt? (s : List Char) : Option (List Char × List Char) :=
  if s.head?.all fun c => c == '>' || Text.isBlank c then none
  else
    match s.dropWhile (· != '>') with
    | [] => none
    | _ :: rest => some (s.takeWhile (· != '>'), rest)

theorem length_dropWhile_le {α : Type} (p : α → Bool) (s : List α) :
    (s.dropWhile p).length ≤ s.length :=
  (List.dropWhile_sublist p).length_le

theorem length_lt_of_nameAt? {s name rest : List Char} (h : nameAt? s = some (name, rest)) :
    rest.length < s.length := by
  unfold nameAt? at h
  split at h
  · simp at h
  · split at h
    · simp at h
    · next heq =>
      have hle := length_dropWhile_le (· != '>') s
      rw [heq] at hle
      simp only [Option.some.injEq, Prod.mk.injEq] at h
      simpa [← h.2, Nat.succ_le_iff] using hle

/-- The tokens of a text. Placeholders are found from left to right, and one that is found is not
looked into. -/
def tokens : List Char → List Token
  | [] => []
  | c :: r =>
    if c = '<' then
      match _h : nameAt? r with
      | some (name, rest) => .placeholder name :: tokens rest
      | none => .char c :: tokens r
    else .char c :: tokens r
termination_by s => s.length
decreasing_by
  · have := length_lt_of_nameAt? _h
    simp only [List.length_cons]
    omega
  · simp
  · simp

/-- The cell of a row in the first column of a name, if there are such a column and such a cell. -/
def cell? (headers row : List String) (name : List Char) : Option String :=
  (headers.idxOf? (String.ofList name)).bind fun i => row[i]?

/-- What a row makes of a token. A placeholder without a cell stays as it is written. -/
def Token.fill (headers row : List String) : Token → List Char
  | .char c => [c]
  | .placeholder name =>
    match cell? headers row name with
    | some cell => cell.toList
    | none => (Token.placeholder name).chars

/-- The text of some tokens with the cells of a row. -/
def fill (headers row : List String) (ts : List Token) : List Char :=
  ts.flatMap (Token.fill headers row)

/-- A text with the cells of a row in place of its placeholders. -/
def substitute (text : String) (headers row : List String) : String :=
  String.ofList (fill headers row (tokens text.toList))

end Acceptance.Gherkin.Placeholder
