import PathEdit.Regex.CharSet

/-! Conditions on a place between two characters of a text. -/
namespace PathEdit.Regex

/-- A condition on the two neighbours of a place in a text. -/
inductive Look where
  | textStart
  | textEnd
  | lineStart
  | lineEnd
  /-- Line boundaries where a carriage return, a line feed or the pair of both ends a line. -/
  | returnLineStart
  | returnLineEnd
  | wordBoundary (word : CharSet)
  | notWordBoundary (word : CharSet)
  | wordStart (word : CharSet)
  | wordEnd (word : CharSet)
  | wordStartHalf (word : CharSet)
  | wordEndHalf (word : CharSet)
deriving DecidableEq

/-- A place in a text and its neighbours. -/
structure Here where
  place : Nat
  before : Option Char
  after : Option Char

namespace Look

/-- Whether the neighbour is a character of a word. -/
def isIn (word : CharSet) (neighbour : Option Char) : Bool := neighbour.any word.contains

def holds (here : Here) : Look → Bool
  | textStart => here.before.isNone
  | textEnd => here.after.isNone
  | lineStart => here.before.all (· == '\n')
  | lineEnd => here.after.all (· == '\n')
  | returnLineStart =>
    here.before.all (· == '\n') || here.before == some '\r' && here.after != some '\n'
  | returnLineEnd =>
    here.after.all (· == '\r') || here.after == some '\n' && here.before != some '\r'
  | wordBoundary word => isIn word here.before != isIn word here.after
  | notWordBoundary word => isIn word here.before == isIn word here.after
  | wordStart word => !isIn word here.before && isIn word here.after
  | wordEnd word => isIn word here.before && !isIn word here.after
  | wordStartHalf word => !isIn word here.before
  | wordEndHalf word => !isIn word here.after

end Look
end PathEdit.Regex
