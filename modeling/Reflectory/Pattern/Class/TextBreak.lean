/-
Where text may be divided: into characters as readers see them, into words and
into sentences.

Each division sorts the characters into classes. Most classes are made of
general categories, properties and scripts, by the rules that the sixteenth
version of the Unicode standard derives them with; small tables hold the
exceptions. The class of all other characters has no name here.
-/

import Reflectory.Pattern.Class.BinaryProperty
import Reflectory.Pattern.Class.Script

namespace Reflectory.Pattern

open Text

/-! ### Visible characters -/

namespace GraphemeBreak

/-- What extends the character before. -/
def extending : CharSet :=
  BinaryProperty.graphemeExtendSet.union (.ofCodePoints BinaryProperty.emojiModifierTable)

/-- Characters that stand alone: line ends, controls and code points without a
shape, apart from joiners, tags and signs in front of numbers. -/
def control : CharSet :=
  let shapeless :=
    (Category.otherUnassigned.set).intersection BinaryProperty.defaultIgnorableCodePointSet
  ((Category.sets [.separatorLine, .separatorParagraph, .otherControl, .otherFormat]).union
    shapeless).difference
      (.ofCodePoints (BinaryProperty.prependedConcatenationMarkTable ++
        [⟨0xA, 0xA, 1⟩, ⟨0xD, 0xD, 1⟩, ⟨0x200C, 0x200D, 1⟩, ⟨0xE0020, 0xE007F, 1⟩]))

/-- Marks with a width that do not belong to the character before. -/
def looseMarks : CodePoints :=
  [⟨0x102B, 0x102C, 1⟩, ⟨0x1038, 0x1038, 1⟩, ⟨0x1062, 0x1064, 1⟩, ⟨0x1067, 0x106D, 1⟩,
   ⟨0x1083, 0x1083, 1⟩, ⟨0x1087, 0x108C, 1⟩, ⟨0x108F, 0x108F, 1⟩, ⟨0x109A, 0x109C, 1⟩,
   ⟨0x1A61, 0x1A61, 1⟩, ⟨0x1A63, 0x1A64, 1⟩, ⟨0xAA7B, 0xAA7B, 1⟩, ⟨0xAA7D, 0xAA7D, 1⟩,
   ⟨0x11720, 0x11721, 1⟩]

/-- Marks with a width, and two vowels that belong to the character before. -/
def spacingMark : CharSet :=
  ((Category.markSpacing.set).difference (extending.union (.ofCodePoints looseMarks))).union
    (.ofCodePoints [⟨0xE33, 0xE33, 1⟩, ⟨0xEB3, 0xEB3, 1⟩])

/-- Signs that belong to the character after them. -/
def leadingSigns : CodePoints :=
  [⟨0xD4E, 0xD4E, 1⟩, ⟨0x111C2, 0x111C3, 1⟩, ⟨0x113D1, 0x113D1, 1⟩, ⟨0x1193F, 0x1193F, 1⟩,
   ⟨0x11941, 0x11941, 1⟩, ⟨0x11A3A, 0x11A3A, 1⟩, ⟨0x11A84, 0x11A89, 1⟩, ⟨0x11D46, 0x11D46, 1⟩,
   ⟨0x11F02, 0x11F02, 1⟩]

/-- Syllables of a consonant and a vowel. -/
def openSyllables : CharSet :=
  .ofCodePoints [⟨0xAC00, 0xD788, 28⟩]

/-- The set of the class of this name. -/
def setOfName? : String → Option CharSet
  | "cr" => some (.single '\r')
  | "lf" => some (.single '\n')
  | "cn" | "control" => some control
  | "ex" | "extend" => some extending
  | "zwj" => some (.single '\u200d')
  | "ri" | "regionalindicator" => some (.ofCodePoints BinaryProperty.regionalIndicatorTable)
  | "pp" | "prepend" =>
    some (.ofCodePoints (BinaryProperty.prependedConcatenationMarkTable ++ leadingSigns))
  | "sm" | "spacingmark" => some spacingMark
  | "l" => some (.ofCodePoints [⟨0x1100, 0x115F, 1⟩, ⟨0xA960, 0xA97C, 1⟩])
  | "v" =>
    some (.ofCodePoints [⟨0x1160, 0x11A7, 1⟩, ⟨0xD7B0, 0xD7C6, 1⟩, ⟨0x16D63, 0x16D63, 1⟩,
      ⟨0x16D67, 0x16D6A, 1⟩])
  | "t" => some (.ofCodePoints [⟨0x11A8, 0x11FF, 1⟩, ⟨0xD7CB, 0xD7FB, 1⟩])
  | "lv" => some openSyllables
  | "lvt" => some ((CharSet.ofCodePoints [⟨0xAC00, 0xD7A3, 1⟩]).difference openSyllables)
  | _ => none

end GraphemeBreak

/-! ### Words -/

namespace WordBreak

/-- The sets of some scripts. -/
def scripts (names : List String) : CharSet :=
  .unions (names.filterMap Script.setOfName?)

/-- Marks, and what else extends the character before. -/
def extending : CharSet :=
  (GraphemeBreak.extending.union Category.markSpacing.set).difference (.single '\u200d')

/-- Signs in front of numbers and in ends of verses: invisible, but no mere format
characters. -/
def numberSigns : CodePoints :=
  [⟨0x600, 0x605, 1⟩, ⟨0x6DD, 0x6DD, 1⟩, ⟨0x890, 0x891, 1⟩, ⟨0x8E2, 0x8E2, 1⟩,
   ⟨0x110BD, 0x110BD, 1⟩, ⟨0x110CD, 0x110CD, 1⟩]

/-- Invisible characters inside words. -/
def format : CharSet :=
  (Category.otherFormat.set).difference (BinaryProperty.graphemeExtendSet.union
    (.ofCodePoints (numberSigns ++ [⟨0x70F, 0x70F, 1⟩, ⟨0x200B, 0x200D, 1⟩])))

/-- Digits, and signs that belong to numbers. -/
def numeric : CharSet :=
  (Category.numberDecimal.set).union
    (.ofCodePoints (numberSigns ++ [⟨0x66B, 0x66B, 1⟩, ⟨0x19DA, 0x19DA, 1⟩]))

/-- Hebrew letters. -/
def hebrewLetter : CharSet :=
  (scripts ["hebrew"]).intersection Category.letterOther.set

/-- Katakana, and the signs used with them. -/
def katakana : CharSet :=
  (scripts ["katakana"]).union
    (.ofCodePoints [⟨0x3031, 0x3035, 1⟩, ⟨0x309B, 0x309C, 1⟩, ⟨0x30A0, 0x30A0, 1⟩,
      ⟨0x30FC, 0x30FC, 1⟩, ⟨0xFF70, 0xFF70, 1⟩])

/-- Scripts that are written without blanks between words. -/
def scriptsWithoutBlanks : List String :=
  ["thai", "lao", "myanmar", "khmer", "taile", "newtailue", "taitham", "taiviet", "ahom"]

/-- Signs that go with the letters of a word. -/
def letterLikeSigns : CodePoints :=
  [⟨0x2C2, 0x2C5, 1⟩, ⟨0x2D2, 0x2D7, 1⟩, ⟨0x2DE, 0x2DF, 1⟩, ⟨0x2E5, 0x2EB, 1⟩,
   ⟨0x2ED, 0x2ED, 1⟩, ⟨0x2EF, 0x2FF, 1⟩, ⟨0x55A, 0x55C, 1⟩, ⟨0x55E, 0x55E, 1⟩,
   ⟨0x58A, 0x58A, 1⟩, ⟨0x5F3, 0x5F3, 1⟩, ⟨0x70F, 0x70F, 1⟩, ⟨0xA708, 0xA716, 1⟩,
   ⟨0xA720, 0xA721, 1⟩, ⟨0xA789, 0xA78A, 1⟩, ⟨0xAB5B, 0xAB5B, 1⟩]

/-- Letters of scripts that are written with blanks between words. -/
def alphabeticLetter : CharSet :=
  (BinaryProperty.alphabeticSet.difference
    (.unions [.ofCodePoints BinaryProperty.ideographicTable, extending, hebrewLetter, katakana,
      scripts ("hiragana" :: scriptsWithoutBlanks)])).union (.ofCodePoints letterLikeSigns)

/-- Punctuation inside numbers. -/
def midNumTable : CodePoints :=
  [⟨0x2C, 0x2C, 1⟩, ⟨0x3B, 0x3B, 1⟩, ⟨0x37E, 0x37E, 1⟩, ⟨0x589, 0x589, 1⟩, ⟨0x60C, 0x60D, 1⟩,
   ⟨0x66C, 0x66C, 1⟩, ⟨0x7F8, 0x7F8, 1⟩, ⟨0x2044, 0x2044, 1⟩, ⟨0xFE50, 0xFE50, 1⟩,
   ⟨0xFE54, 0xFE54, 1⟩, ⟨0xFF0C, 0xFF0C, 1⟩, ⟨0xFF1B, 0xFF1B, 1⟩]

/-- Spaces that no word goes across, with a width. -/
def wideSpaces : CodePoints :=
  [⟨0x20, 0x20, 1⟩, ⟨0x1680, 0x1680, 1⟩, ⟨0x2000, 0x2006, 1⟩, ⟨0x2008, 0x200A, 1⟩,
   ⟨0x205F, 0x205F, 1⟩, ⟨0x3000, 0x3000, 1⟩]

/-- The set of the class of this name. -/
def setOfName? : String → Option CharSet
  | "cr" => some (.single '\r')
  | "lf" => some (.single '\n')
  | "nl" | "newline" =>
    some (.ofCodePoints [⟨0xB, 0xC, 1⟩, ⟨0x85, 0x85, 1⟩, ⟨0x2028, 0x2029, 1⟩])
  | "extend" => some extending
  | "zwj" => some (.single '\u200d')
  | "fo" | "format" => some format
  | "ka" | "katakana" => some katakana
  | "hl" | "hebrewletter" => some hebrewLetter
  | "le" | "aletter" => some alphabeticLetter
  | "sq" | "singlequote" => some (.single '\'')
  | "dq" | "doublequote" => some (.single '"')
  | "mb" | "midnumlet" => some (.ofCodePoints BinaryProperty.midNumLetTable)
  | "ml" | "midletter" => some (.ofCodePoints BinaryProperty.midLetterTable)
  | "mn" | "midnum" => some (.ofCodePoints midNumTable)
  | "nu" | "numeric" => some numeric
  | "ex" | "extendnumlet" =>
    some ((Category.punctuationConnector.set).union (.single '\u202f'))
  | "ri" | "regionalindicator" => some (.ofCodePoints BinaryProperty.regionalIndicatorTable)
  | "wsegspace" => some (.ofCodePoints wideSpaces)
  | _ => none

end WordBreak

/-! ### Sentences -/

namespace SentenceBreak

/-- Marks, and what else extends the character before. -/
def extending : CharSet :=
  (BinaryProperty.graphemeExtendSet.union Category.markSpacing.set).union (.single '\u200d')

/-- Georgian letters, which have case but do not begin sentences with it. -/
def georgianCapitals : CodePoints :=
  [⟨0x1C90, 0x1CBA, 1⟩, ⟨0x1CBD, 0x1CBF, 1⟩]

/-- The small forms of the Georgian letters. -/
def georgianSmall : CodePoints :=
  [⟨0x10D0, 0x10FA, 1⟩, ⟨0x10FD, 0x10FF, 1⟩]

/-- Capitals that begin sentences. -/
def upper : CharSet :=
  (BinaryProperty.uppercaseSet.union Category.letterTitlecase.set).difference
    (.ofCodePoints georgianCapitals)

/-- Small letters. -/
def lower : CharSet :=
  BinaryProperty.lowercaseSet.difference
    (BinaryProperty.graphemeExtendSet.union (.ofCodePoints georgianSmall))

/-- Full stops. -/
def fullStops : CodePoints :=
  [⟨0x2E, 0x2E, 1⟩, ⟨0x2024, 0x2024, 1⟩, ⟨0xFE52, 0xFE52, 1⟩, ⟨0xFF0E, 0xFF0E, 1⟩]

/-- Quotes that are no brackets. -/
def closingSigns : CodePoints :=
  [⟨0x22, 0x22, 1⟩, ⟨0x27, 0x27, 1⟩, ⟨0x275B, 0x2760, 1⟩, ⟨0x2E00, 0x2E01, 1⟩,
   ⟨0x2E06, 0x2E08, 1⟩, ⟨0x2E0B, 0x2E0B, 1⟩, ⟨0x1F676, 0x1F678, 1⟩]

/-- Punctuation after which a sentence goes on. -/
def continuations : CodePoints :=
  [⟨0x2C, 0x2D, 1⟩, ⟨0x3A, 0x3B, 1⟩, ⟨0x37E, 0x37E, 1⟩, ⟨0x55D, 0x55D, 1⟩, ⟨0x60C, 0x60D, 1⟩,
   ⟨0x7F8, 0x7F8, 1⟩, ⟨0x1802, 0x1802, 1⟩, ⟨0x1808, 0x1808, 1⟩, ⟨0x2013, 0x2014, 1⟩,
   ⟨0x3001, 0x3001, 1⟩, ⟨0xFE10, 0xFE11, 1⟩, ⟨0xFE13, 0xFE14, 1⟩, ⟨0xFE31, 0xFE32, 1⟩,
   ⟨0xFE50, 0xFE51, 1⟩, ⟨0xFE54, 0xFE55, 1⟩, ⟨0xFE58, 0xFE58, 1⟩, ⟨0xFE63, 0xFE63, 1⟩,
   ⟨0xFF0C, 0xFF0D, 1⟩, ⟨0xFF1A, 0xFF1B, 1⟩, ⟨0xFF64, 0xFF64, 1⟩]

/-- The set of the class of this name. -/
def setOfName? : String → Option CharSet
  | "cr" => some (.single '\r')
  | "lf" => some (.single '\n')
  | "se" | "sep" => some (.ofCodePoints [⟨0x85, 0x85, 1⟩, ⟨0x2028, 0x2029, 1⟩])
  | "ex" | "extend" => some extending
  | "fo" | "format" =>
    some ((Category.otherFormat.set).difference (BinaryProperty.graphemeExtendSet.union
      (.ofCodePoints (WordBreak.numberSigns ++ [⟨0x200C, 0x200D, 1⟩]))))
  | "sp" =>
    some ((CharSet.ofCodePoints BinaryProperty.whiteSpaceTable).difference
      (.ofCodePoints [⟨0xA, 0xA, 1⟩, ⟨0xD, 0xD, 1⟩, ⟨0x85, 0x85, 1⟩, ⟨0x2028, 0x2029, 1⟩]))
  | "lo" | "lower" => some lower
  | "up" | "upper" => some upper
  | "le" | "oletter" =>
    some ((BinaryProperty.alphabeticSet.difference (.unions [lower, upper, extending])).union
      (.single '\u05f3'))
  | "nu" | "numeric" => some (WordBreak.numeric.union (.single '\u066c'))
  | "at" | "aterm" => some (.ofCodePoints fullStops)
  | "st" | "sterm" =>
    some ((CharSet.ofCodePoints BinaryProperty.sentenceTerminalTable).difference
      (.ofCodePoints fullStops))
  | "sc" | "scontinue" => some (.ofCodePoints continuations)
  | "cl" | "close" =>
    some ((Category.sets [.punctuationOpen, .punctuationClose, .punctuationInitial,
      .punctuationFinal]).union (.ofCodePoints closingSigns))
  | _ => none

end SentenceBreak

end Reflectory.Pattern
