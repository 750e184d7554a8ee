import PathEdit.Binary64.Style
import PathEdit.Json.Printer
import PathEdit.Yaml.Scalar

/-! YAML documents of values, in block style with two columns for each level. An array inside an
object is not indented further, and a container inside an array begins on the line of its dash.
Empty containers stand on their line. -/
namespace PathEdit.Yaml

/-- Numbers from `10 ^ -5` to below `10 ^ 16` are written positionally, whole ones with a zero
behind the point; a half goes to the even digit. -/
def floatStyle : Binary64.Style := ⟨.even, true, some (-5, 15)⟩

/-- A double that is no number is a null. -/
def floatChars (x : Binary64) : List Char :=
  if x.isFinite then floatStyle.chars x else "null".toList

/-- A scalar or an empty container, and the end of its line. -/
def line (chars : List Char) : List Char := ' ' :: (chars ++ ['\n'])

def stringLine (indent : Nat) (s : String) : List Char :=
  let style := styleOf s.toList
  let chars := stringChars indent style s.toList
  if style = .literal then ' ' :: chars else line chars

/-- Whether a name can stand in front of its colon: it is short and on one line. -/
def isSimpleName (name : String) : Bool :=
  name.utf8ByteSize ≤ 128 && !name.toList.any isBreak

/-- What the text of a value follows on its line. -/
inductive Opener where
  /-- The dash of an element, or the colon below a name that stands on its own. -/
  | mark
  /-- The colon behind a name. -/
  | name

/-- The name of an entry up to its colon. A name that is not simple stands behind a question mark
on lines of its own. -/
def nameChars (indent : Nat) (name : String) : List Char × Opener :=
  if isSimpleName name then
    (stringChars (indent + 2) (styleOf name.toList) name.toList ++ [':'], .name)
  else ('?' :: stringLine (indent + 2) name ++ blanks indent ++ [':'], .mark)

/-- The lines of a container behind a mark: the first one begins on the line of the mark. -/
def behindMark (lines : List (List Char)) (indent : Nat) : List Char :=
  ' ' :: (List.intercalate (blanks (indent + 2)) lines)

/-- The lines of a container below a name. -/
def belowName (lines : List (List Char)) (column : Nat) : List Char :=
  '\n' :: (lines.flatMap (blanks column ++ ·))

mutual

/-- A value behind what opens it, in a container at a column, with the end of its last line. -/
def treeChars (indent : Nat) (opener : Opener) : Tree → List Char
  | .null => line "null".toList
  | .boolean b => line (if b then "true".toList else "false".toList)
  | .integer n => line (Json.intChars n.toInt)
  | .float x => line (floatChars x)
  | .string s => stringLine (indent + 2) s
  | .array items =>
    if items.isEmpty then line "[]".toList
    else
      match opener with
      | .mark => behindMark (itemsChars (indent + 2) items) indent
      | .name => belowName (itemsChars indent items) indent
  | .object entries =>
    if entries.isEmpty then line "\x7b\x7d".toList
    else
      match opener with
      | .mark => behindMark (entriesChars (indent + 2) entries) indent
      | .name => belowName (entriesChars (indent + 2) entries) (indent + 2)

/-- The elements of an array at a column. -/
def itemsChars (indent : Nat) : List Tree → List (List Char)
  | [] => []
  | item :: rest => ('-' :: treeChars indent .mark item) :: itemsChars indent rest

/-- The entries of an object at a column. -/
def entriesChars (indent : Nat) : List (String × Tree) → List (List Char)
  | [] => []
  | (name, item) :: rest =>
    ((nameChars indent name).1 ++ treeChars indent (nameChars indent name).2 item) ::
      entriesChars indent rest

end

/-- The YAML document of a value. -/
def chars (value : Value) : List Char :=
  match value.tree with
  | .array (item :: rest) => (itemsChars 0 (item :: rest)).flatten
  | .object (entry :: rest) => (entriesChars 0 (entry :: rest)).flatten
  | tree => (treeChars 0 .mark tree).drop 1

def print (value : Value) : String := String.ofList (chars value)

end PathEdit.Yaml
