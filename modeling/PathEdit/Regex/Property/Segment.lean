import PathEdit.Regex.Property.Binary
import PathEdit.Regex.Property.Script

/-! Sets of characters by their part in the bounds of clusters, words and sentences. -/
namespace PathEdit.Regex.CharSet

open Unicode Unicode.Category

def zeroWidthJoiner : CharSet := single '\u200d'

def zeroWidthSpace : CharSet := single '\u200b'

def clusterExtend : CharSet := union graphemeExtend (listed emojiModifier)

def clusterControl : CharSet :=
  diff (union (listedAny [lineSeparator, paragraphSeparator, control, format])
      (inter unassigned defaultIgnorable))
    (unions [range 0xa 0xa, range 0xd 0xd, zeroWidthJoiner, listed prependedConcatenationMark,
      graphemeExtend])

/-- Of the syllable blocks, every twenty-eighth has no trailing consonant. -/
def openSyllableBlock : List Span := [⟨0xac00, 0xd788, 28⟩]

/-- The set of a value of Grapheme_Cluster_Break. -/
def clusterBreak? : String → Option CharSet
  | "control" | "cn" => some clusterControl
  | "cr" => some (single '\r')
  | "extend" | "ex" => some clusterExtend
  | "l" => some (listed leadingJamo)
  | "lf" => some (single '\n')
  | "lv" => some (listed openSyllableBlock)
  | "lvt" => some (diff (listed syllableBlock) (listed openSyllableBlock))
  | "prepend" | "pp" => some (listedAny [prependedConcatenationMark, clusterPrepend])
  | "regionalindicator" | "ri" => some (listed regionalIndicator)
  | "spacingmark" | "sm" =>
    some (diff (listedAny [spacingMark, spacingLetter])
      (union clusterExtend (listed freeSpacingMark)))
  | "t" => some (listed trailingJamo)
  | "v" => some (listed vowelJamo)
  | "zwj" => some zeroWidthJoiner
  | _ => Option.none

def wordExtend : CharSet := union clusterExtend (listed spacingMark)

def wordNumeric : CharSet := union (listed decimalNumber) (single '\u066b')

def hebrewLetter : CharSet := inter ((script? "hebrew").getD none) (listed otherLetter)

/-- Letters of words whose bounds can be told from their characters. -/
def wordLetter : CharSet :=
  union (listed otherWordLetter) (diff alphabeticCharacters (unions
    [listedAny [ideographic, wordKatakana, unspacedLetter], (script? "hiragana").getD none,
      wordExtend, hebrewLetter]))

/-- The set of a value of Word_Break. -/
def wordBreak? : String → Option CharSet
  | "aletter" | "le" => some wordLetter
  | "cr" => some (single '\r')
  | "doublequote" | "dq" => some (single '"')
  | "extend" => some wordExtend
  | "extendnumlet" | "ex" => some (listed wordConnector)
  | "format" | "fo" =>
    some (diff (listed format) (unions [wordExtend, zeroWidthSpace, zeroWidthJoiner]))
  | "hebrewletter" | "hl" => some hebrewLetter
  | "katakana" | "ka" => some (listed wordKatakana)
  | "lf" => some (single '\n')
  | "midletter" | "ml" => some (listed midLetter)
  | "midnum" | "mn" => some (listed midNumber)
  | "midnumlet" | "mb" => some (listed midBoth)
  | "newline" | "nl" => some (listed newline)
  | "numeric" | "nu" => some wordNumeric
  | "regionalindicator" | "ri" => some (listed regionalIndicator)
  | "singlequote" | "sq" => some (single '\'')
  | "wsegspace" => some (listed wordBlank)
  | "zwj" => some zeroWidthJoiner
  | _ => Option.none

def sentenceExtend : CharSet :=
  unions [graphemeExtend, listed spacingMark, zeroWidthJoiner]

def sentenceSeparator : CharSet := union (single '\u0085') (range 0x2028 0x2029)

def sentenceLower : CharSet :=
  diff lowercaseCharacters (union graphemeExtend (listed georgianSmall))

def sentenceUpper : CharSet :=
  diff (union uppercaseCharacters (listed titlecaseLetter)) (listed georgianCapital)

/-- The set of a value of Sentence_Break. -/
def sentenceBreak? : String → Option CharSet
  | "aterm" | "at" => some (listed sentencePoint)
  | "close" | "cl" =>
    some (listedAny
      [openPunctuation, closePunctuation, initialPunctuation, finalPunctuation, plainQuotation])
  | "cr" => some (single '\r')
  | "extend" | "ex" => some sentenceExtend
  | "format" | "fo" => some (diff (listed format) sentenceExtend)
  | "lf" => some (single '\n')
  | "lower" | "lo" => some sentenceLower
  | "numeric" | "nu" => some (union wordNumeric (single '\u066c'))
  | "oletter" | "le" =>
    some (diff (union alphabeticCharacters (single '\u05f3'))
      (unions [sentenceLower, sentenceUpper, sentenceExtend]))
  | "scontinue" | "sc" => some (listed sentenceComma)
  | "sep" | "se" => some sentenceSeparator
  | "sp" => some (diff blank (unions [single '\n', single '\r', sentenceSeparator]))
  | "sterm" | "st" => some (diff (listed sentenceTerminal) (listed sentencePoint))
  | "upper" | "up" => some sentenceUpper
  | _ => Option.none

end PathEdit.Regex.CharSet
