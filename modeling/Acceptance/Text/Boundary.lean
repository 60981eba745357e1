import Acceptance.Text.Property
import Acceptance.Text.Script

/-!
# Classes of characters at boundaries

Rules for finding the boundaries of graphemes, words and sentences sort characters into classes.
Most classes follow from categories, scripts and properties; the rest are small tables.

* `GraphemeBreak.classes`, `WordBreak.classes` and `SentenceBreak.classes` list the classes by their
  normalised names. A class holds only characters that no rule before it claims.
-/

namespace Acceptance.Text

/-! ## Common classes -/

/-- A single code point. -/
def codePoint (n : Nat) : CharSet := CharSet.ofRanges [(n, n)]

/-- Carriage return. -/
def carriageReturn : CharSet := codePoint 0x0D

/-- Line feed. -/
def lineFeed : CharSet := codePoint 0x0A

/-- The joiner of zero width. -/
def zeroWidthJoiner : CharSet := codePoint 0x200D

/-- The letters that stand for flags in pairs. -/
def regionalIndicator : CharSet := CharSet.ofLines regionalIndicatorTable

/-- Marks that precede the number or word that they belong to. -/
def prependedMark : CharSet := CharSet.ofLines prependedMarkTable

/-- The mark of an abbreviation, which precedes a word and no number. -/
def abbreviationMark : CharSet := codePoint 0x70F

/-- Marks that precede a number. -/
def numberMark : CharSet := prependedMark.diff abbreviationMark

/-- Characters that numbers are written with: decimal digits, a further form of the digit one, the
decimal separator of Arabic digits and marks before numbers. -/
def numeral : CharSet :=
  CharSet.unions [Category.decimalNumber.set, CharSet.ofRanges [(0x66B, 0x66B), (0x19DA, 0x19DA)],
    numberMark]

/-- Marks of every kind that attach to the character before them. -/
def attachedMark : CharSet :=
  graphemeExtend.union Category.spacingMark.set

/-! ## Graphemes -/

namespace GraphemeBreak

/-- Spacing marks that do not attach to the character before them. -/
def spacingMarkExceptionTable : List String :=
  ["102B-102C 1038 1062-1064 1067-106D 1083 1087-108C 108F 109A-109C 1A61 1A63-1A64 AA7B AA7D",
   "11720-11721"]

/-- Letters that attach to the character after them. -/
def prependedLetterTable : List String :=
  ["D4E 111C2-111C3 113D1 1193F 11941 11A3A 11A84-11A89 11D46 11F02"]

/-- Letters that begin a syllable block. -/
def leadingJamoTable : List String :=
  ["1100-115F A960-A97C"]

/-- Vowels inside of a syllable block. -/
def vowelJamoTable : List String :=
  ["1160-11A7 D7B0-D7C6 16D63 16D67-16D6A"]

/-- Letters that end a syllable block. -/
def trailingJamoTable : List String :=
  ["11A8-11FF D7CB-D7FB"]

/-- Characters that precede their base. -/
def prepend : CharSet := prependedMark.union (CharSet.ofLines prependedLetterTable)

/-- Characters that extend their base. -/
def extend : CharSet := graphemeExtend.union (CharSet.ofLines emojiModifierTable)

/-- Characters that stand alone and are not seen. -/
def control : CharSet :=
  let unassigned := Category.unassigned.set.inter (CharSet.ofLines defaultIgnorableTable)
  let hidden := unassigned.union
    (Category.setOf [.control, .format, .lineSeparator, .paragraphSeparator])
  hidden.diff (CharSet.unions
    [carriageReturn, lineFeed, zeroWidthJoiner, codePoint 0x200C, prependedMark, extend])

/-- Marks with a width of their own. -/
def spacingMark : CharSet :=
  (Category.spacingMark.set.union (CharSet.ofLines ["E33 EB3"])).diff
    (extend.union (CharSet.ofLines spacingMarkExceptionTable))

/-- The first and the last block of two or three letters. -/
def blockRange : CharSet := CharSet.ofRanges [(0xAC00, 0xD7A3)]

/-- Blocks of a leading letter and a vowel: every 28th block. -/
def twoLetterBlock : CharSet :=
  CharSet.ofRanges ((List.range 399).map fun i => (0xAC00 + 28 * i, 0xAC00 + 28 * i))

/-- The classes by their normalised names. -/
def classes : SetTable :=
  [(["control", "cn"], fun _ => control),
    (["cr"], fun _ => carriageReturn),
    (["extend", "ex"], fun _ => extend),
    (["l"], fun _ => CharSet.ofLines leadingJamoTable),
    (["lf"], fun _ => lineFeed),
    (["lv"], fun _ => twoLetterBlock),
    (["lvt"], fun _ => blockRange.diff twoLetterBlock),
    (["prepend", "pp"], fun _ => prepend),
    (["regionalindicator", "ri"], fun _ => regionalIndicator),
    (["spacingmark", "sm"], fun _ => spacingMark),
    (["t"], fun _ => CharSet.ofLines trailingJamoTable),
    (["v"], fun _ => CharSet.ofLines vowelJamoTable),
    (["zwj"], fun _ => zeroWidthJoiner)]

end GraphemeBreak

/-! ## Words -/

namespace WordBreak

/-- Signs that are taken for letters. -/
def otherLetterTable : List String :=
  ["2C2-2C5 2D2-2D7 2DE-2DF 2E5-2EB 2ED 2EF-2FF 55A-55C 55E 58A 5F3 70F A708-A716 A720-A721",
   "A789-A78A AB5B"]

/-- Signs that are used with the letters of their script. -/
def otherKatakanaTable : List String :=
  ["3031-3035 309B-309C 30A0 30FC FF70"]

/-- The scripts whose words are not told apart by the classes of their characters. -/
def unspacedScripts : List Script :=
  [.hiragana, .katakana, .thai, .lao, .khmer, .myanmar, .taiLe, .newTaiLue, .taiTham, .taiViet,
    .ahom]

/-- Katakana. -/
def katakana : CharSet := Script.katakana.set.union (CharSet.ofLines otherKatakanaTable)

/-- Marks, and the signs that change the colour of a picture. -/
def extend : CharSet := attachedMark.union (CharSet.ofLines emojiModifierTable)

/-- Hebrew letters. -/
def hebrewLetter : CharSet := Script.hebrew.set.inter Category.otherLetter.set

/-- Letters of scripts that put spaces between words. -/
def letter : CharSet :=
  (alphabetic.diff (CharSet.unions
    (attachedMark :: CharSet.ofLines ideographicTable :: Script.hebrew.set :: katakana ::
      unspacedScripts.map Script.set))).union (CharSet.ofLines otherLetterTable)

/-- Formats that do not end a word. -/
def format : CharSet :=
  Category.format.set.diff (CharSet.unions
    [prependedMark, graphemeExtend, CharSet.ofRanges [(0x200B, 0x200D)]])

/-- The classes by their normalised names. -/
def classes : SetTable :=
  [(["aletter", "le"], fun _ => letter),
    (["cr"], fun _ => carriageReturn),
    (["doublequote", "dq"], fun _ => codePoint 0x22),
    (["extend"], fun _ => extend),
    (["extendnumlet", "ex"], fun _ =>
      CharSet.ofLines ["5F 202F 203F-2040 2054 FE33-FE34 FE4D-FE4F FF3F"]),
    (["format", "fo"], fun _ => format),
    (["hebrewletter", "hl"], fun _ => hebrewLetter),
    (["katakana", "ka"], fun _ => katakana),
    (["lf"], fun _ => lineFeed),
    (["midletter", "ml"], fun _ => CharSet.ofLines ["3A B7 387 55F 5F4 2027 FE13 FE55 FF1A"]),
    (["midnum", "mn"], fun _ => CharSet.ofLines
      ["2C 3B 37E 589 60C-60D 66C 7F8 2044 FE50 FE54 FF0C FF1B"]),
    (["midnumlet", "mb"], fun _ => CharSet.ofLines ["2E 2018-2019 2024 FE52 FF07 FF0E"]),
    (["newline", "nl"], fun _ => CharSet.ofLines ["B-C 85 2028-2029"]),
    (["numeric", "nu"], fun _ => numeral),
    (["regionalindicator", "ri"], fun _ => regionalIndicator),
    (["singlequote", "sq"], fun _ => codePoint 0x27),
    (["wsegspace"], fun _ => CharSet.ofLines ["20 1680 2000-2006 2008-200A 205F 3000"]),
    (["zwj"], fun _ => zeroWidthJoiner)]

end WordBreak

/-! ## Sentences -/

namespace SentenceBreak

/-- Quotation marks that are no opening or closing punctuation. -/
def otherCloseTable : List String :=
  ["22 27 275B-2760 2E00-2E01 2E06-2E08 2E0B 1F676-1F678"]

/-- Signs after which a sentence goes on. -/
def continueTable : List String :=
  ["2C-2D 3A-3B 37E 55D 60C-60D 7F8 1802 1808 2013-2014 3001 FE10-FE11 FE13-FE14 FE31-FE32",
   "FE50-FE51 FE54-FE55 FE58 FE63 FF0C-FF0D FF1A-FF1B FF64"]

/-- Ends of lines that end a sentence. -/
def separator : CharSet := CharSet.ofLines ["85 2028-2029"]

/-- Full stops, which also stand in numbers and abbreviations. -/
def stop : CharSet := CharSet.ofLines ["2E 2024 FE52 FF0E"]

/-- Letters that have a case by their properties but are used without one. -/
def uncased : CharSet := CharSet.ofLines ["10D0-10FA 10FD-10FF 1C90-1CBA 1CBD-1CBF"]

/-- Lower case letters. -/
def lower : CharSet := lowercase.diff (graphemeExtend.union uncased)

/-- Upper case letters. -/
def upper : CharSet := (uppercase.union Category.titlecaseLetter.set).diff uncased

/-- Letters without a case. -/
def otherLetter : CharSet :=
  (alphabetic.union (codePoint 0x5F3)).diff (CharSet.unions [lower, upper, attachedMark])

/-- Marks and the joiner of zero width. -/
def extend : CharSet := attachedMark.union zeroWidthJoiner

/-- Formats that do not end a sentence. -/
def format : CharSet :=
  Category.format.set.diff (CharSet.unions
    [numberMark, graphemeExtend, CharSet.ofRanges [(0x200C, 0x200D)]])

/-- Brackets and quotation marks. -/
def close : CharSet :=
  (Category.setOf
    [.openPunctuation, .closePunctuation, .initialPunctuation, .finalPunctuation]).union
    (CharSet.ofLines otherCloseTable)

/-- Numerals, with the separator of thousands of Arabic digits. -/
def numeric : CharSet := numeral.union (codePoint 0x66C)

/-- The classes by their normalised names. -/
def classes : SetTable :=
  [(["aterm", "at"], fun _ => stop),
    (["close", "cl"], fun _ => close),
    (["cr"], fun _ => carriageReturn),
    (["extend", "ex"], fun _ => extend),
    (["format", "fo"], fun _ => format),
    (["lf"], fun _ => lineFeed),
    (["lower", "lo"], fun _ => lower),
    (["numeric", "nu"], fun _ => numeric),
    (["oletter", "le"], fun _ => otherLetter),
    (["scontinue", "sc"], fun _ => CharSet.ofLines continueTable),
    (["sep", "se"], fun _ => separator),
    (["sp"], fun _ => blank.diff (CharSet.unions [separator, carriageReturn, lineFeed])),
    (["sterm", "st"], fun _ => (CharSet.ofLines sentenceTerminalTable).diff stop),
    (["upper", "up"], fun _ => upper)]

end SentenceBreak

end Acceptance.Text
