import Acceptance.Text.Recent

/-!
# Quoted text

Text in double quotes, with an escape for every character that could not be told apart or seen.

* `Text.isVisible` says which characters are written as they are.
* `Text.escaped` writes one character, `Text.quoted` a whole text.
-/

namespace Acceptance.Text

/-- The characters that cannot be seen: controls, formats, separators, characters without an
assigned meaning and characters that are not meant to be shown. -/
def invisible : CharSet :=
  ((Category.setOf (Category.surrogate :: Category.others ++ Category.separators)).diff
    Recent.assigned).union (CharSet.ofLines defaultIgnorableTable)

/-- The marks that join the character before them. Modifier letters are no marks. -/
def joiningMark : CharSet :=
  (graphemeExtend.union Recent.marks).diff Category.modifierLetter.set

/-- Whether a character is written as it is. -/
def isVisible (c : Char) : Bool :=
  c == ' ' || (!invisible.contains c && !joiningMark.contains c)

/-- The escape of a character by its code point. -/
def codeEscape (c : Char) : List Char :=
  ['\\', 'u', '\x7b'] ++ Nat.toDigits 16 c.toNat ++ ['\x7d']

/-- A character inside of quotes. -/
def escaped (c : Char) : List Char :=
  match c with
  | '\x00' => ['\\', '0']
  | '\t' => ['\\', 't']
  | '\r' => ['\\', 'r']
  | '\n' => ['\\', 'n']
  | '\\' => ['\\', '\\']
  | '"' => ['\\', '"']
  | c => if isVisible c then [c] else codeEscape c

/-- A text in quotes. -/
def quoted (s : String) : String :=
  String.ofList ('"' :: s.toList.flatMap escaped ++ ['"'])

end Acceptance.Text
