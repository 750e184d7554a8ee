import PathEdit.Regex.Look

/-! Flags of regular expressions, and what they change in reading single characters. -/
namespace PathEdit.Regex

/-- The flags in force at a place of a regular expression. -/
structure Flags where
  ignoreCase : Bool
  multiLine : Bool
  dotNewline : Bool
  swapGreed : Bool
  unicode : Bool
  carriageReturn : Bool
  verbose : Bool

namespace Flags

/-- The flags at the beginning of a regular expression. -/
def initial : Flags := ⟨false, false, false, false, true, false, false⟩

/-- Switches the flag of a letter; an unknown letter has none. -/
def switch? (flags : Flags) (letter : Char) (on : Bool) : Option Flags :=
  match letter with
  | 'i' => some { flags with ignoreCase := on }
  | 'm' => some { flags with multiLine := on }
  | 's' => some { flags with dotNewline := on }
  | 'U' => some { flags with swapGreed := on }
  | 'u' => some { flags with unicode := on }
  | 'R' => some { flags with carriageReturn := on }
  | 'x' => some { flags with verbose := on }
  | _ => none

/-- The text behind blanks and comments, where a comment runs to the end of its line. -/
def dropBlanks (inComment : Bool) : List Char → List Char
  | [] => []
  | c :: rest =>
    if inComment then dropBlanks (c != '\n') rest
    else if c == '#' then dropBlanks true rest
    else if Unicode.isWhiteSpace c then dropBlanks false rest
    else c :: rest

/-- Verbose expressions may be spaced out and commented. -/
def skip (flags : Flags) (text : List Char) : List Char :=
  if flags.verbose then dropBlanks false text else text

/-- The set with the case variants of its characters, when case is ignored. -/
def fold (flags : Flags) (set : CharSet) : CharSet :=
  if !flags.ignoreCase then set
  else if flags.unicode then .anyCase set
  else .union set (.inter (.anyCase set) (.range 0 0x7f))

def digit (flags : Flags) : CharSet := if flags.unicode then .digit else .asciiDigit

def blank (flags : Flags) : CharSet := if flags.unicode then .blank else .asciiBlank

def word (flags : Flags) : CharSet := if flags.unicode then .word else .asciiWord

/-- Without Unicode a set is one of bytes, and only ASCII bytes are characters of a text. -/
def admits (flags : Flags) (set : CharSet) : Bool :=
  flags.unicode || set.isAscii

/-- The set that one character of an expression stands for. -/
def literal? (flags : Flags) (c : Char) : Option CharSet :=
  if flags.unicode || c.toNat < 0x80 then some (flags.fold (.single c)) else none

/-- The set of a point. -/
def dot? (flags : Flags) : Option CharSet :=
  if !flags.unicode then none
  else if flags.dotNewline then some .any
  else if flags.carriageReturn then some (.compl (.ofRanges [('\n', '\n'), ('\r', '\r')]))
  else some (.compl (.single '\n'))

def caret (flags : Flags) : Look :=
  if !flags.multiLine then .textStart
  else if flags.carriageReturn then .returnLineStart
  else .lineStart

def dollar (flags : Flags) : Look :=
  if !flags.multiLine then .textEnd
  else if flags.carriageReturn then .returnLineEnd
  else .lineEnd

end Flags
end PathEdit.Regex
