import PathEdit.Regex.Property.Category
import PathEdit.Unicode.Casing
import PathEdit.Unicode.Diacritic
import PathEdit.Unicode.Emoji
import PathEdit.Unicode.Identifier
import PathEdit.Unicode.Ideograph
import PathEdit.Unicode.Invisible
import PathEdit.Unicode.Mathematics
import PathEdit.Unicode.Punctuation
import PathEdit.Unicode.Segment

/-! Sets of characters by the properties that a character has or has not. Most of them are unions
and differences of general categories and further lists. -/
namespace PathEdit.Regex.CharSet

open Unicode Unicode.Category

def alphabeticCharacters : CharSet := listedAny alphabetic

def lowercaseCharacters : CharSet := listedAny [lowercaseLetter, otherLowercase]

def uppercaseCharacters : CharSet := listedAny [uppercaseLetter, otherUppercase]

/-- The characters of Cased. -/
def casedCharacters : CharSet :=
  unions [lowercaseCharacters, uppercaseCharacters, listed titlecaseLetter]

/-- The characters of Case_Ignorable. -/
def caseIgnorable : CharSet :=
  union (single '\'') (listedAny
    [nonspacingMark, enclosingMark, format, modifierLetter, modifierSymbol, midLetter, midBoth])

/-- The characters that simple case folding changes. -/
def foldable : CharSet := ofAscending (foldedPairs.map fun (code, _) => ⟨code, code⟩)

/-- The characters that simple case folding leads to. -/
def foldingTargets : CharSet := unions (foldedPairs.map fun (_, target) => range target target)

/-- The characters of Changes_When_Casefolded. One letter is folded already by its decomposition. -/
def changesWhenFolded : CharSet := union (diff foldable (single '\u1fbe')) (listed foldedInFull)

/-- The characters of Changes_When_Lowercased. -/
def changesWhenLowercased : CharSet :=
  unions [diff foldable lowercaseCharacters, single '\u0130', listed foldingCapital]

/-- The characters of Changes_When_Uppercased. -/
def changesWhenUppercased : CharSet :=
  diff (unions [foldingTargets, inter foldable lowercaseCharacters,
    listedAny [titlecaseLetter, unpairedSmall]]) (listed foldingCapital)

/-- The characters of Changes_When_Titlecased. -/
def changesWhenTitlecased : CharSet :=
  diff (union changesWhenUppercased (listed capitalDigraph))
    (listedAny [titlecaseLetter, georgianSmall])

/-- The characters of Changes_When_Casemapped. -/
def changesWhenCasemapped : CharSet :=
  unions [changesWhenLowercased, changesWhenUppercased, changesWhenTitlecased]

/-- The characters of Default_Ignorable_Code_Point. -/
def defaultIgnorable : CharSet :=
  union (diff (listedAny [format, variationSelector])
    (listedAny [shownFormat, prependedConcatenationMark])) (listed otherDefaultIgnorable)

/-- The characters of Grapheme_Extend. -/
def graphemeExtend : CharSet := listedAny [nonspacingMark, enclosingMark, otherGraphemeExtend]

/-- The characters of Grapheme_Base. -/
def graphemeBase : CharSet :=
  compl (unions [graphemeExtend, unassigned,
    listedAny [control, format, privateUse, lineSeparator, paragraphSeparator]])

/-- The characters of ID_Start. -/
def idStart : CharSet :=
  diff (listedAny (letter ++ [letterNumber, otherIdStart]))
    (listedAny [patternSyntax, patternWhiteSpace])

/-- The characters of ID_Continue. -/
def idContinue : CharSet :=
  union idStart (diff (listedAny
    [nonspacingMark, spacingMark, decimalNumber, connectorPunctuation, otherIdContinue])
    (listedAny [patternSyntax, patternWhiteSpace]))

def asciiHexDigit : CharSet := ofRanges [('0', '9'), ('A', 'F'), ('a', 'f')]

/-- The characters of Hex_Digit: the ASCII ones and their full-width forms. -/
def hexDigit : CharSet :=
  union asciiHexDigit (ofRanges [('０', '９'), ('Ａ', 'Ｆ'), ('ａ', 'ｆ')])

/-- The set of a binary property. -/
def binary? : String → Option CharSet
  | "alphabetic" | "alpha" => some alphabeticCharacters
  | "asciihexdigit" | "ahex" => some asciiHexDigit
  | "bidicontrol" | "bidic" => some (listed bidiControl)
  | "bidimirrored" | "bidim" => some (listed bidiMirrored)
  | "cased" => some casedCharacters
  | "caseignorable" | "ci" => some caseIgnorable
  | "changeswhencasefolded" | "cwcf" => some changesWhenFolded
  | "changeswhencasemapped" | "cwcm" => some changesWhenCasemapped
  | "changeswhenlowercased" | "cwl" => some changesWhenLowercased
  | "changeswhentitlecased" | "cwt" => some changesWhenTitlecased
  | "changeswhenuppercased" | "cwu" => some changesWhenUppercased
  | "dash" => some (listed dash)
  | "defaultignorablecodepoint" | "di" => some defaultIgnorable
  | "deprecated" | "dep" => some (listed deprecatedCharacter)
  | "diacritic" | "dia" => some (listed diacritic)
  | "emoji" => some (listed emoji)
  | "emojicomponent" | "ecomp" => some (listed emojiComponent)
  | "emojimodifier" | "emod" => some (listed emojiModifier)
  | "emojimodifierbase" | "ebase" => some (listed emojiModifierBase)
  | "emojipresentation" | "epres" => some (listed emojiPresentation)
  | "extendedpictographic" | "extpict" => some (listed extendedPictographic)
  | "extender" | "ext" => some (listed extender)
  | "graphemebase" | "grbase" => some graphemeBase
  | "graphemeextend" | "grext" => some graphemeExtend
  | "graphemelink" | "grlink" => some (listed graphemeLink)
  | "hexdigit" | "hex" => some hexDigit
  | "hyphen" => some (listed hyphen)
  | "idcompatmathcontinue" => some (listedAny [mathIdStart, mathIdContinue])
  | "idcompatmathstart" => some (listed mathIdStart)
  | "idcontinue" | "idc" => some idContinue
  | "ideographic" | "ideo" => some (listed ideographic)
  | "idsbinaryoperator" | "idsb" => some (listed binaryDescription)
  | "idstart" | "ids" => some idStart
  | "idstrinaryoperator" | "idst" => some (listed trinaryDescription)
  | "idsunaryoperator" | "idsu" => some (listed unaryDescription)
  | "joincontrol" | "joinc" => some (listed joinControl)
  | "logicalorderexception" | "loe" => some (listed logicalOrderException)
  | "lowercase" | "lower" => some lowercaseCharacters
  | "math" => some (listedAny [mathSymbol, otherMath])
  | "modifiercombiningmark" | "mcm" => some (listed modifierCombiningMark)
  | "noncharactercodepoint" | "nchar" => some (listed noncharacter)
  | "otheralphabetic" | "oalpha" => some (listed otherAlphabetic)
  | "otherdefaultignorablecodepoint" | "odi" => some (listed otherDefaultIgnorable)
  | "othergraphemeextend" | "ogrext" => some (listed otherGraphemeExtend)
  | "otheridcontinue" | "oidc" => some (listed otherIdContinue)
  | "otheridstart" | "oids" => some (listed otherIdStart)
  | "otherlowercase" | "olower" => some (listed otherLowercase)
  | "othermath" | "omath" => some (listed otherMath)
  | "otheruppercase" | "oupper" => some (listed otherUppercase)
  | "patternsyntax" | "patsyn" => some (listed patternSyntax)
  | "patternwhitespace" | "patws" => some (listed patternWhiteSpace)
  | "prependedconcatenationmark" | "pcm" => some (listed prependedConcatenationMark)
  | "quotationmark" | "qmark" => some (listed quotationMark)
  | "radical" => some (listed radical)
  | "regionalindicator" | "ri" => some (listed regionalIndicator)
  | "sentenceterminal" | "sterm" => some (listed sentenceTerminal)
  | "softdotted" | "sd" => some (listed softDotted)
  | "terminalpunctuation" | "term" => some (listed terminalPunctuation)
  | "unifiedideograph" | "uideo" => some (listed unifiedIdeograph)
  | "uppercase" | "upper" => some uppercaseCharacters
  | "variationselector" | "vs" => some (listed variationSelector)
  | "whitespace" | "wspace" | "space" => some blank
  | "xidcontinue" | "xidc" => some (diff idContinue (listed unstableIdContinue))
  | "xidstart" | "xids" => some (diff idStart (listed unstableIdStart))
  | _ => Option.none

end PathEdit.Regex.CharSet
