import PathEdit.Yaml.Plain

/-! Strings in YAML documents: the choice of a style, and the text in it. -/
namespace PathEdit.Yaml

def isBreak (c : Char) : Bool :=
  c == '\n' || c == '\r' || c == '\u0085' || c == '\u2028' || c == '\u2029'

/-- Characters that may stand in a document as they are. -/
def isPrintable (c : Char) : Bool :=
  c == '\n' || ' ' ≤ c && c ≤ '~' ||
    '\u00a0' ≤ c && c != '\ufeff' && c != '\ufffe' && c != '\uffff'

/-- Characters that begin something other than a plain string. -/
def isIndicator (c : Char) : Bool := "#,[]\x7b\x7d&*!|>'\"%@\x60".toList.contains c

/-- The ways to write a string. -/
inductive Style where
  | plain
  | singleQuoted
  | doubleQuoted
  | literal
deriving DecidableEq

/-- Whether some neighbouring characters satisfy a condition. -/
def anyAdjacent (condition : Char → Char → Bool) (text : List Char) : Bool :=
  (text.zip (text.drop 1)).any fun (first, second) => condition first second

/-- Neither single quotes nor a block can hold the text: a character must be escaped, or a blank
would be lost at the end of a line. -/
def needsEscapes (text : List Char) : Bool :=
  !text.all isPrintable || anyAdjacent (fun a b => a == ' ' && isBreak b) text

/-- Whether the text would be taken for the beginning of a structure, or for one inside. -/
def looksStructural (text : List Char) : Bool :=
  let mark (c : Char) : Bool := c == '-' || c == '?' || c == ':'
  let opens :=
    match text with
    | [] => false
    | c :: rest => isIndicator c || mark c && rest.head?.all (· == ' ')
  (behind? ['-', '-', '-'] text).isSome || (behind? ['.', '.', '.'] text).isSome || opens ||
    anyAdjacent (fun a b => a == ':' && b == ' ' || a == ' ' && b == '#') text ||
    text.getLast? == some ':'

/-- Whether the text can stand without quotes. -/
def allowsPlain (text : List Char) : Bool :=
  !needsEscapes text && !text.any isBreak && !looksStructural text &&
    text.head? != some ' ' && text.getLast? != some ' '

/-- Whether the text can stand between single quotes; a blank must not begin a line. -/
def allowsSingleQuoted (text : List Char) : Bool :=
  !needsEscapes text && !anyAdjacent (fun a b => isBreak a && b == ' ') text

/-- Whether the text can be a literal block. -/
def allowsLiteral (text : List Char) : Bool :=
  !needsEscapes text && text.getLast? != some ' '

/-- The style of a string: a text of several lines is a block, one that would be read as something
else is quoted. -/
def styleOf (text : List Char) : Style :=
  if text.contains '\n' then if allowsLiteral text then .literal else .doubleQuoted
  else if allowsPlain text && !isAmbiguous text then .plain
  else if allowsSingleQuoted text then .singleQuoted
  else .doubleQuoted

def blanks (count : Nat) : List Char := List.replicate count ' '

/-- The text between single quotes, behind a break or not. A quote is doubled, and a line behind a
break is indented. -/
def singleQuotedChars (indent : Nat) (broken : Bool) : List Char → List Char
  | [] => if broken then blanks indent else []
  | c :: rest =>
    if isBreak c then c :: singleQuotedChars indent true rest
    else
      (if broken then blanks indent else []) ++ (if c == '\'' then ['\'', '\''] else [c]) ++
        singleQuotedChars indent false rest

/-- The upper-case hexadecimal digits of a number below `16 ^ count`. -/
def hexDigits (count n : Nat) : List Char :=
  let digits := (Nat.toDigits 16 n).map Char.toUpper
  List.replicate (count - digits.length) '0' ++ digits

/-- One character between double quotes. -/
def escape (c : Char) : List Char :=
  match c with
  | '"' => ['\\', '"']
  | '\\' => ['\\', '\\']
  | '\x00' => ['\\', '0']
  | '\x07' => ['\\', 'a']
  | '\x08' => ['\\', 'b']
  | '\t' => ['\\', 't']
  | '\n' => ['\\', 'n']
  | '\x0b' => ['\\', 'v']
  | '\x0c' => ['\\', 'f']
  | '\r' => ['\\', 'r']
  | '\x1b' => ['\\', 'e']
  | '\u0085' => ['\\', 'N']
  | '\u2028' => ['\\', 'L']
  | '\u2029' => ['\\', 'P']
  | c =>
    if isPrintable c then [c]
    else if c.toNat ≤ 0xff then '\\' :: 'x' :: hexDigits 2 c.toNat
    else if c.toNat ≤ 0xffff then '\\' :: 'u' :: hexDigits 4 c.toNat
    else '\\' :: 'U' :: hexDigits 8 c.toNat

/-- What a block says about its indent and about the breaks at its end. -/
def literalHints (text : List Char) : List Char :=
  let indent := if text.head?.any (fun c => c == ' ' || isBreak c) then ['2'] else []
  let ending :=
    match text.reverse with
    | [] => ['-']
    | last :: before =>
      if !isBreak last then ['-'] else if before.head?.all isBreak then ['+'] else []
  indent ++ ending

/-- The lines of a block. Empty ones are not indented, and the last one is ended. -/
def literalChars (indent : Nat) (broken : Bool) : List Char → List Char
  | [] => if broken then [] else ['\n']
  | c :: rest =>
    if isBreak c then c :: literalChars indent true rest
    else (if broken then blanks indent else []) ++ c :: literalChars indent false rest

/-- A string in its style. A block is indented to the given column and ends its last line; any
other style leaves that to what follows. -/
def stringChars (indent : Nat) (style : Style) (text : List Char) : List Char :=
  match style with
  | .plain => text
  | .singleQuoted => '\'' :: (singleQuotedChars indent false text ++ ['\''])
  | .doubleQuoted => '"' :: (text.flatMap escape ++ ['"'])
  | .literal => '|' :: (literalHints text ++ '\n' :: literalChars indent true text)

end PathEdit.Yaml
