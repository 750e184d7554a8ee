import PathEdit.Regex.CharSet

/-! Sets of characters by general category, under its short and its long name. -/
namespace PathEdit.Regex.CharSet

open Unicode Unicode.Category

def letters : CharSet := listedAny letter

def casedLetters : CharSet := listedAny [uppercaseLetter, lowercaseLetter, titlecaseLetter]

def marks : CharSet := listedAny mark

def numbers : CharSet := listedAny [decimalNumber, letterNumber, otherNumber]

def punctuation : CharSet :=
  listedAny [connectorPunctuation, dashPunctuation, openPunctuation, closePunctuation,
    initialPunctuation, finalPunctuation, otherPunctuation]

def symbols : CharSet := listedAny [mathSymbol, currencySymbol, modifierSymbol, otherSymbol]

def separators : CharSet := listedAny [spaceSeparator, lineSeparator, paragraphSeparator]

/-- The characters with a category other than unassigned. -/
def assigned : CharSet :=
  unions [letters, marks, numbers, punctuation, symbols, separators,
    listedAny [control, format, privateUse]]

def unassigned : CharSet := compl assigned

/-- The set of a general category; surrogates have none. -/
def category? : String → Option CharSet
  | "l" | "letter" => some letters
  | "lc" | "casedletter" => some casedLetters
  | "lu" | "uppercaseletter" => some (listed uppercaseLetter)
  | "ll" | "lowercaseletter" => some (listed lowercaseLetter)
  | "lt" | "titlecaseletter" => some (listed titlecaseLetter)
  | "lm" | "modifierletter" => some (listed modifierLetter)
  | "lo" | "otherletter" => some (listed otherLetter)
  | "m" | "mark" | "combiningmark" => some marks
  | "mn" | "nonspacingmark" => some (listed nonspacingMark)
  | "mc" | "spacingmark" => some (listed spacingMark)
  | "me" | "enclosingmark" => some (listed enclosingMark)
  | "n" | "number" => some numbers
  | "nd" | "decimalnumber" | "digit" => some (listed decimalNumber)
  | "nl" | "letternumber" => some (listed letterNumber)
  | "no" | "othernumber" => some (listed otherNumber)
  | "p" | "punctuation" | "punct" => some punctuation
  | "pc" | "connectorpunctuation" => some (listed connectorPunctuation)
  | "pd" | "dashpunctuation" => some (listed dashPunctuation)
  | "ps" | "openpunctuation" => some (listed openPunctuation)
  | "pe" | "closepunctuation" => some (listed closePunctuation)
  | "pi" | "initialpunctuation" => some (listed initialPunctuation)
  | "pf" | "finalpunctuation" => some (listed finalPunctuation)
  | "po" | "otherpunctuation" => some (listed otherPunctuation)
  | "s" | "symbol" => some symbols
  | "sm" | "mathsymbol" => some (listed mathSymbol)
  | "sc" | "currencysymbol" => some (listed currencySymbol)
  | "sk" | "modifiersymbol" => some (listed modifierSymbol)
  | "so" | "othersymbol" => some (listed otherSymbol)
  | "z" | "separator" => some separators
  | "zs" | "spaceseparator" => some (listed spaceSeparator)
  | "zl" | "lineseparator" => some (listed lineSeparator)
  | "zp" | "paragraphseparator" => some (listed paragraphSeparator)
  | "c" | "other" => some (union (listedAny [control, format, privateUse]) unassigned)
  | "cc" | "control" | "cntrl" => some (listed control)
  | "cf" | "format" => some (listed format)
  | "cn" | "unassigned" => some unassigned
  | "co" | "privateuse" => some (listed privateUse)
  | "any" => some any
  | "ascii" => some (range 0 0x7f)
  | "assigned" => some assigned
  | _ => Option.none

end PathEdit.Regex.CharSet
