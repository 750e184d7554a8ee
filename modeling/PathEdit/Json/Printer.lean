import PathEdit.Binary64.Style
import PathEdit.Value.Basic

/-! JSON texts of values, compact or laid out over lines. -/
namespace PathEdit.Json

/-- How the elements of containers are set apart. -/
structure Layout where
  /-- Written at the beginning of every line after the first. -/
  margin : List Char
  /-- Written once for each level behind the margin. -/
  indent : List Char
deriving DecidableEq

namespace Layout

/-- Everything on one line, without blanks. -/
def compact : Layout := ⟨[], []⟩

/-- Two blanks for each level. -/
def pretty : Layout := ⟨[], [' ', ' ']⟩

/-- A layout without a margin and an indent is on one line. -/
def isCompact (layout : Layout) : Bool := layout.margin.isEmpty && layout.indent.isEmpty

/-- The beginning of a new line at a level. -/
def newline (layout : Layout) (level : Nat) : List Char :=
  if layout.isCompact then []
  else '\n' :: (layout.margin ++ (List.replicate level layout.indent).flatten)

/-- What follows the name of an entry. -/
def colon (layout : Layout) : List Char := if layout.isCompact then [':'] else [':', ' ']

/-- The texts of the elements between brackets, each on a line of the next level. -/
def enclose (layout : Layout) (level : Nat) (opening closing : Char) (parts : List (List Char)) :
    List Char :=
  match parts with
  | [] => [opening, closing]
  | parts =>
    opening :: (List.intercalate [','] (parts.map (layout.newline (level + 1) ++ ·)) ++
      layout.newline level ++ [closing])

end Layout

/-- Numbers are written positionally, whole ones without a point; a half goes up. -/
def floatStyle : Binary64.Style := ⟨.up, false, none⟩

/-- The lower-case hexadecimal digits of a number below `16 ^ count`. -/
def hexDigits (count n : Nat) : List Char :=
  let digits := Nat.toDigits 16 n
  List.replicate (count - digits.length) '0' ++ digits

/-- Control characters are those of the two ranges of controls in the first 256 characters. -/
def isControl (c : Char) : Bool := c.toNat < 0x20 || 0x7f ≤ c.toNat && c.toNat < 0xa0

/-- The text of one character between quotes. -/
def escape (c : Char) : List Char :=
  match c with
  | '"' => ['\\', '"']
  | '\\' => ['\\', '\\']
  | '\n' => ['\\', 'n']
  | '\r' => ['\\', 'r']
  | '\t' => ['\\', 't']
  | c => if isControl c then '\\' :: 'u' :: hexDigits 4 c.toNat else [c]

def quote (s : String) : List Char := '"' :: (s.toList.flatMap escape ++ ['"'])

def intChars (n : Int) : List Char :=
  if n < 0 then '-' :: Nat.toDigits 10 n.natAbs else Nat.toDigits 10 n.natAbs

/-- A double that is no number has no text of its own. -/
def floatChars (x : Binary64) : List Char :=
  if x.isFinite then floatStyle.chars x else ['n', 'u', 'l', 'l']

mutual

def treeChars (layout : Layout) (level : Nat) : Tree → List Char
  | .null => ['n', 'u', 'l', 'l']
  | .boolean true => ['t', 'r', 'u', 'e']
  | .boolean false => ['f', 'a', 'l', 's', 'e']
  | .integer n => intChars n.toInt
  | .float x => floatChars x
  | .string s => quote s
  | .array items => layout.enclose level '[' ']' (itemsChars layout (level + 1) items)
  | .object entries =>
    layout.enclose level '\x7b' '\x7d' (entriesChars layout (level + 1) entries)

def itemsChars (layout : Layout) (level : Nat) : List Tree → List (List Char)
  | [] => []
  | item :: rest => treeChars layout level item :: itemsChars layout level rest

def entriesChars (layout : Layout) (level : Nat) : List (String × Tree) → List (List Char)
  | [] => []
  | (name, item) :: rest =>
    (quote name ++ layout.colon ++ treeChars layout level item) :: entriesChars layout level rest

end

def chars (layout : Layout) (value : Value) : List Char := treeChars layout 0 value.tree

/-- The JSON text of a value. -/
def print (layout : Layout) (value : Value) : String := String.ofList (chars layout value)

end PathEdit.Json
