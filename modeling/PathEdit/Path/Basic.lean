/-! Paths into trees, and their canonical text. -/
namespace PathEdit

/-- One step of a path: to an entry of an object, or to one or all elements of an array. -/
inductive Step where
  | key (name : String)
  | position (index : UInt64)
  | wildcard
deriving DecidableEq

/-- The steps from the root down; the empty path addresses the root itself. -/
abbrev Path := List Step

namespace Step

/-- Whether the step leads into an array. -/
def isIndex : Step → Bool
  | key _ => false
  | position _ | wildcard => true

/-- The text of a name; a name that holds a point is quoted. -/
def nameChars (name : List Char) : List Char :=
  if name.contains '.' then '"' :: (name ++ ['"']) else name

/-- The text of a step behind another one. -/
def chars : Step → List Char
  | key name => '.' :: nameChars name.toList
  | position index => '[' :: (Nat.toDigits 10 index.toNat ++ [']'])
  | wildcard => ['[', '*', ']']

/-- The text of the first step of a path. -/
def leadingChars : Step → List Char
  | key name => nameChars name.toList
  | step => step.chars

end Step

namespace Path

def chars : Path → List Char
  | [] => []
  | step :: rest => step.leadingChars ++ rest.flatMap Step.chars

/-- The canonical text of a path. -/
def text (path : Path) : String := String.ofList path.chars

end Path
end PathEdit
