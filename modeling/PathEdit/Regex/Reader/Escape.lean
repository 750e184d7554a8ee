import PathEdit.Regex.Property
import PathEdit.Regex.Reader.Flags

/-! Escapes of regular expressions. A reader takes the text from some place on and gives what it
read with the rest of the text; there is no result where the expression is malformed. -/
namespace PathEdit.Regex

/-- What stands for itself in an expression or behind a reverse solidus. -/
inductive Atom where
  | literal (c : Char)
  | set (set : CharSet)
  | look (look : Look)

namespace Reader

/-- Characters with a meaning of their own in some part of an expression. -/
def isMeta (c : Char) : Bool := "\\.+*?()|[]\x7b\x7d^$#&-~".toList.contains c

/-- Escaped, these stand for themselves: all ASCII characters but letters, digits and the angle
brackets. -/
def isEscapable (c : Char) : Bool :=
  isMeta c || c.toNat < 0x80 && !c.isAlphanum && c != '<' && c != '>'

def hexValue? (c : Char) : Option Nat :=
  if c.isDigit then some (c.toNat - '0'.toNat)
  else if 'a' ≤ c && c ≤ 'f' then some (c.toNat - 'a'.toNat + 10)
  else if 'A' ≤ c && c ≤ 'F' then some (c.toNat - 'A'.toNat + 10)
  else none

/-- The character of a code point; surrogates and numbers beyond the last are none. -/
def scalar? (code : Nat) : Option Char :=
  if code.isValidChar then some (Char.ofNat code) else none

/-- The given number of hexadecimal digits. -/
def hexDigits (flags : Flags) : Nat → Nat → List Char → Option (Nat × List Char)
  | 0, value, text => some (value, text)
  | _ + 1, _, [] => none
  | count + 1, value, c :: rest => do
    let digit ← hexValue? c
    hexDigits flags count (16 * value + digit) (flags.skip rest)

/-- Hexadecimal digits up to a closing brace. -/
def bracedHex (flags : Flags) : Nat → Option Nat → List Char → Option (Nat × List Char)
  | 0, _, _ => none
  | _ + 1, _, [] => none
  | fuel + 1, value, c :: rest =>
    if c == '\x7d' then value.map fun v => (v, flags.skip rest)
    else do
      let digit ← hexValue? c
      bracedHex flags fuel (some (16 * value.getD 0 + digit)) (flags.skip rest)

/-- The character of a hexadecimal escape, behind its letter. -/
def hexEscape (flags : Flags) (digits : Nat) (text : List Char) : Option (Atom × List Char) := do
  let (code, rest) ←
    match flags.skip text with
    | '\x7b' :: rest => bracedHex flags rest.length none (flags.skip rest)
    | text => hexDigits flags digits 0 text
  let c ← scalar? code
  return (.literal c, rest)

/-- The text up to a closing brace. -/
def bracedName (flags : Flags) : Nat → List Char → Option (List Char × List Char)
  | 0, _ => none
  | _ + 1, [] => none
  | fuel + 1, c :: rest =>
    if c == '\x7d' then some ([], rest)
    else do
      let (name, rest) ← bracedName flags fuel (flags.skip rest)
      return (c :: name, rest)

/-- Cuts a text at the first exclamation mark before an equals sign. -/
def cutUnequal : List Char → Option (List Char × List Char)
  | '!' :: '=' :: rest => some ([], rest)
  | c :: rest => (cutUnequal rest).map fun (before, behind) => (c :: before, behind)
  | [] => none

def cutAt (mark : Char) (text : List Char) : Option (List Char × List Char) :=
  if text.contains mark then
    some (text.takeWhile (· != mark), (text.dropWhile (· != mark)).drop 1)
  else none

/-- The set of a property name, which may have a value behind an equals sign or a colon. An
exclamation mark before the equals sign does not negate the set; the letter of the escape does. -/
def namedSet? (name : List Char) : Option CharSet :=
  match ((cutUnequal name).or (cutAt ':' name)).or (cutAt '=' name) with
  | some (property, value) => CharSet.propertyValue? property value
  | none => CharSet.property? name

/-- A Unicode property, behind its letter. -/
def propertyEscape (flags : Flags) (negated : Bool) (text : List Char) :
    Option (Atom × List Char) := do
  let (set, rest) ←
    match flags.skip text with
    | [] => none
    | '\x7b' :: rest => do
      let (name, rest) ← bracedName flags rest.length (flags.skip rest)
      (namedSet? name).map (·, rest)
    | '\\' :: _ => none
    | c :: rest => (CharSet.property? [c]).map (·, flags.skip rest)
  if flags.unicode then some (.set (.negateIf negated (flags.fold set)), rest) else none

/-- What may follow a word boundary in braces. -/
inductive Braced where
  | absent
  | look (look : Look) (rest : List Char)

/-- Letters and hyphens up to a closing brace. -/
def bracedWord (flags : Flags) : Nat → List Char → Option (List Char × List Char)
  | 0, _ => none
  | _ + 1, [] => none
  | fuel + 1, c :: rest =>
    if c == '\x7d' then some ([], rest)
    else if c.isAlpha || c == '-' then do
      let (word, rest) ← bracedWord flags fuel (flags.skip rest)
      return (c :: word, rest)
    else none

/-- A side of a word in braces, behind a word boundary. Braces that hold no letters belong to a
repetition. -/
def bracedBoundary (flags : Flags) (text : List Char) : Option Braced :=
  match text with
  | '\x7b' :: rest =>
    match flags.skip rest with
    | [] => none
    | c :: _ =>
      if c.isAlpha || c == '-' then do
        let (word, rest) ← bracedWord flags rest.length (flags.skip rest)
        match String.ofList word with
        | "start" => return .look (.wordStart flags.word) rest
        | "end" => return .look (.wordEnd flags.word) rest
        | "start-half" => return .look (.wordStartHalf flags.word) rest
        | "end-half" => return .look (.wordEndHalf flags.word) rest
        | _ => none
      else some .absent
  | _ => some .absent

/-- What a reverse solidus begins, read behind it. -/
def escape (flags : Flags) : List Char → Option (Atom × List Char)
  | [] => none
  | c :: rest =>
    let shorthand (set : CharSet) (negated : Bool) :=
      if negated && !flags.unicode then none
      else some (Atom.set (.negateIf negated set), rest)
    match c with
    | 'x' => hexEscape flags 2 rest
    | 'u' => hexEscape flags 4 rest
    | 'U' => hexEscape flags 8 rest
    | 'p' => propertyEscape flags false rest
    | 'P' => propertyEscape flags true rest
    | 'd' => shorthand flags.digit false
    | 'D' => shorthand flags.digit true
    | 's' => shorthand flags.blank false
    | 'S' => shorthand flags.blank true
    | 'w' => shorthand flags.word false
    | 'W' => shorthand flags.word true
    | 'a' => some (.literal '\x07', rest)
    | 'f' => some (.literal '\x0c', rest)
    | 't' => some (.literal '\t', rest)
    | 'n' => some (.literal '\n', rest)
    | 'r' => some (.literal '\r', rest)
    | 'v' => some (.literal '\x0b', rest)
    | 'A' => some (.look .textStart, rest)
    | 'z' => some (.look .textEnd, rest)
    | 'b' => do
      match ← bracedBoundary flags rest with
      | .absent => return (.look (.wordBoundary flags.word), rest)
      | .look l rest => return (.look l, rest)
    | 'B' => some (.look (.notWordBoundary flags.word), rest)
    | '<' => some (.look (.wordStart flags.word), rest)
    | '>' => some (.look (.wordEnd flags.word), rest)
    | c => if isEscapable c then some (.literal c, rest) else none

end Reader
end PathEdit.Regex
