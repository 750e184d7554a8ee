import PathEdit.Error
import PathEdit.Path.Basic
import PathEdit.Regex.Footprint.Basic
import PathEdit.Regex.Matching

/-! The syntax of path expressions around a format, which is a regular expression of one attribute
name. A path is split into its last step and the text before it, which is split in turn. -/
namespace PathEdit

open Regex

/-- The patterns of a path with at least one bracket or point, and of a name that stands alone. -/
structure PathSyntax where
  path : Pattern
  name : Pattern
deriving DecidableEq

/-- Identifiers, in which hyphens and solidi may follow the first character, or the same in
quotes, where points may follow too. -/
def standardFormat : String := "(\"[A-Za-z_]+[A-Za-z0-9_./-]*\"|[A-Za-z_]+[A-Za-z0-9_/-]*)"

namespace PathSyntax

/-- The expression of a path. The text before the last step is looser than a path: it is split
again, which decides. -/
def pathExpression (format : List Char) : List Char :=
  "^(?P<parent>(((\\.)?".toList ++ format ++
    "|\\[([0-9]+|\\*)\\]))*)((\\.)(?P<attribute>".toList ++ format ++
    ")|(\\[(?P<index>([0-9]+|\\*))\\]))$".toList

def nameExpression (format : List Char) : List Char :=
  "^(?P<attribute>".toList ++ format ++ ")$".toList

/-- The syntax around a format, if it is a regular expression in its place. -/
def ofFormat? (format : String) : Option PathSyntax := do
  let path ← Pattern.read? (pathExpression format.toList)
  let name ← Pattern.read? (nameExpression format.toList)
  return ⟨path, name⟩

/-- Takes the quotes off a quoted name. -/
def unquote (name : List Char) : List Char :=
  match name with
  | '"' :: rest => if rest.getLast? = some '"' then rest.dropLast else name
  | _ => name

def keyStep (name : List Char) : Step := .key (String.ofList (unquote name))

/-- The step of the text between two brackets; a position has at most 64 bits. -/
def index? (text : List Char) : Option Step :=
  if text = ['*'] then some .wildcard
  else
    let index := Nat.ofDigitChars 10 text 0
    if index < UInt64.size then some (.position (UInt64.ofNat index)) else none

/-- A text cut in front of its last step. -/
structure Split where
  parent : List Char
  last : Option Step

def dropPoint (text : List Char) : List Char :=
  if text.getLast? = some '.' then text.dropLast else text

/-- Cuts a text in front of its last step, and drops a point that is left before it. -/
def split? (s : PathSyntax) (text : List Char) : Option Split :=
  (s.path.match? text).map fun trace =>
    { parent := dropPoint ((trace.capture? "parent" text).getD [])
      last :=
        match trace.capture? "index" text with
        | some digits => index? digits
        | none => (trace.capture? "attribute" text).map keyStep }

/-- Whether a text holds none of the characters that join steps. -/
def isPlain (text : List Char) : Bool := text.all fun c => c != '.' && c != '[' && c != ']'

/-- The steps of a text, or that it is no path, where splitting comes to an end. It does not where
a text is split off in front of nothing, and would be split again and again. -/
def steps? (s : PathSyntax) (text : List Char) : Option (Option Path) :=
  let alone := if s.name.occursIn text then some [keyStep text] else none
  if isPlain text && s.name.occursIn text then some alone
  else
    match s.split? text with
    | none => some alone
    | some split => do
      let before ←
        if split.parent.isEmpty then some (some [])
        else if split.parent.length < text.length then s.steps? split.parent
        else none
      return do return (← before) ++ [← split.last]
termination_by text.length

/-- The path of an expression. An expression that would be split for ever has none. -/
def parse? (s : PathSyntax) (expression : String) : Option Path :=
  (s.steps? expression.toList).join

/-- The path of an expression, or that the expression is none. -/
def parse (s : PathSyntax) (expression : String) : Except Error Path :=
  match s.parse? expression with
  | some path => .ok path
  | none => .error (.invalidPath expression)

theorem isSome_ofFormat?_standardFormat : (ofFormat? standardFormat).isSome = true := by
  decide +kernel

/-- The syntax around the standard format. -/
def standard : PathSyntax := (ofFormat? standardFormat).get isSome_ofFormat?_standardFormat

theorem ofFormat?_standardFormat : ofFormat? standardFormat = some standard :=
  (Option.some_get isSome_ofFormat?_standardFormat).symm

end PathSyntax
end PathEdit
