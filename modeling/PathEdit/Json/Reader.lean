import PathEdit.Json.Number

/-! Reading JSON texts as values (`Json.read?`), strictly: no blanks but space, tab, line feed and
carriage return, no comments, no commas at the end, nothing behind the value. Of several entries
of one name the last counts. -/
namespace PathEdit.Json

/-- The most levels of arrays and objects that a text may have. -/
def maxDepth : Nat := 127

/-- Reads something at the beginning of a text, and gives the rest of it. -/
abbrev Read (α : Type) := List Char → Option (α × List Char)

namespace Reader

def isBlank (c : Char) : Bool := c == ' ' || c == '\t' || c == '\n' || c == '\r'

def skipBlanks (text : List Char) : List Char := text.dropWhile isBlank

/-- The text behind a given beginning. -/
def behind? (word text : List Char) : Option (List Char) :=
  if word.isPrefixOf text then some (text.drop word.length) else none

def hexValue? (c : Char) : Option Nat :=
  if c.isDigit then some (c.toNat - '0'.toNat)
  else if 'a' ≤ c && c ≤ 'f' then some (c.toNat - 'a'.toNat + 10)
  else if 'A' ≤ c && c ≤ 'F' then some (c.toNat - 'A'.toNat + 10)
  else none

/-- The unit of four hexadecimal digits. -/
def hexUnit : Read Nat
  | a :: b :: c :: d :: rest => do
    let a ← hexValue? a
    let b ← hexValue? b
    let c ← hexValue? c
    let d ← hexValue? d
    return (((a * 16 + b) * 16 + c) * 16 + d, rest)
  | _ => none

/-- The character of an escape with hexadecimal digits, behind its letter. A unit in the first half
of a surrogate pair needs an escape of the second half. -/
def unicodeEscape : Read Char := fun text => do
  let (unit, rest) ← hexUnit text
  if 0xdc00 ≤ unit && unit ≤ 0xdfff then none
  else if 0xd800 ≤ unit && unit ≤ 0xdbff then
    match rest with
    | '\\' :: 'u' :: rest => do
      let (second, rest) ← hexUnit rest
      if 0xdc00 ≤ second && second ≤ 0xdfff then
        return (Char.ofNat (0x10000 + (unit - 0xd800) * 0x400 + (second - 0xdc00)), rest)
      else none
    | _ => none
  else return (Char.ofNat unit, rest)

/-- The character of an escape, behind the reverse solidus. -/
def escape : Read Char
  | '"' :: rest => some ('"', rest)
  | '\\' :: rest => some ('\\', rest)
  | '/' :: rest => some ('/', rest)
  | 'b' :: rest => some ('\x08', rest)
  | 'f' :: rest => some ('\x0c', rest)
  | 'n' :: rest => some ('\n', rest)
  | 'r' :: rest => some ('\r', rest)
  | 't' :: rest => some ('\t', rest)
  | 'u' :: rest => unicodeEscape rest
  | _ => none

/-- The characters up to a closing quote. -/
def stringChars : Nat → Read (List Char)
  | 0, _ => none
  | _ + 1, [] => none
  | fuel + 1, c :: rest =>
    if c = '"' then some ([], rest)
    else if c = '\\' then do
      let (c, rest) ← escape rest
      let (cs, rest) ← stringChars fuel rest
      return (c :: cs, rest)
    else if c.toNat < 0x20 then none
    else do
      let (cs, rest) ← stringChars fuel rest
      return (c :: cs, rest)

/-- A string, behind its opening quote. -/
def string : Read String := fun text => do
  let (cs, rest) ← stringChars text.length text
  return (String.ofList cs, rest)

/-- One or more elements up to a closing bracket, with commas between them. -/
def elements {α : Type} (element : Read α) (closing : Char) : Nat → Read (List α)
  | 0, _ => none
  | fuel + 1, text => do
    let (a, rest) ← element (skipBlanks text)
    match skipBlanks rest with
    | ',' :: rest =>
      let (as, rest) ← elements element closing fuel rest
      return (a :: as, rest)
    | c :: rest => if c = closing then some ([a], rest) else none
    | [] => none

/-- The elements up to a closing bracket. -/
def enclosed {α : Type} (element : Read α) (closing : Char) : Read (List α) := fun text =>
  match skipBlanks text with
  | [] => none
  | c :: rest =>
    if c = closing then some ([], rest) else elements element closing text.length (c :: rest)

/-- An entry of an object. -/
def entry (value : Read Value) : Read (String × Value)
  | '"' :: rest => do
    let (name, rest) ← string rest
    match skipBlanks rest with
    | ':' :: rest =>
      let (v, rest) ← value (skipBlanks rest)
      return ((name, v), rest)
    | _ => none
  | _ => none

/-- A value with at most the given number of levels. -/
def value (depth : Nat) : Read Value := fun text =>
  match text with
  | 'n' :: _ => (behind? ['n', 'u', 'l', 'l'] text).map (.null, ·)
  | 't' :: _ => (behind? ['t', 'r', 'u', 'e'] text).map (.boolean true, ·)
  | 'f' :: _ => (behind? ['f', 'a', 'l', 's', 'e'] text).map (.boolean false, ·)
  | '"' :: rest => (string rest).map fun (s, rest) => (.string s, rest)
  | '[' :: rest =>
    match depth with
    | 0 => none
    | depth + 1 =>
      (enclosed (value depth) ']' rest).map fun (items, rest) => (.array items, rest)
  | '\x7b' :: rest =>
    match depth with
    | 0 => none
    | depth + 1 =>
      (enclosed (entry (value depth)) '\x7d' rest).map fun (entries, rest) =>
        (.object (.ofList entries), rest)
  | _ => do
    let (numeral, rest) ← Numeral.read text
    let v ← numeral.value?
    return (v, rest)

end Reader

/-- The value of a JSON text, if it is one. -/
def readChars? (text : List Char) : Option Value := do
  let (v, rest) ← Reader.value maxDepth (Reader.skipBlanks text)
  if (Reader.skipBlanks rest).isEmpty then some v else none

def read? (text : String) : Option Value := readChars? text.toList

end PathEdit.Json
