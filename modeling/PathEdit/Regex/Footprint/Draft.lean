/-! The size of an automaton in the making. -/
namespace PathEdit.Regex.Footprint

/-- The direction in which an automaton reads the bytes of a text. -/
inductive Direction where
  | forwards
  | backwards
deriving DecidableEq

/-- An automaton as far as it has been drawn up: its states, which are numbered in order, and the
bytes that they take beyond their fixed size. -/
structure Draft where
  states : Nat
  extra : Nat

/-- The largest size in bytes: ten mebibytes. -/
def limit : Nat := 10 * 1024 * 1024

namespace Draft

def empty : Draft := ⟨0, 0⟩

/-- The size in bytes. -/
def size (draft : Draft) : Nat := 32 * draft.states + draft.extra

def isOver (draft : Draft) : Bool := limit < draft.size

/-- Adds states without outgoing lists. -/
def add (draft : Draft) (states : Nat) : Draft := { draft with states := draft.states + states }

/-- Adds a state that chooses among ranges of bytes. -/
def addRanges (draft : Draft) (ranges : Nat) : Draft := ⟨draft.states + 1, draft.extra + 8 * ranges⟩

/-- Adds a state that forks. -/
def addFork (draft : Draft) (ways : Nat) : Draft := ⟨draft.states + 1, draft.extra + 4 * ways⟩

/-- Draws the same part a number of times, which ends when the draft is too large. -/
def times (draw : Draft → Draft) : Nat → Draft → Draft
  | 0, draft => draft
  | count + 1, draft => if draft.isOver then draft else times draw count (draw draft)

end Draft
end PathEdit.Regex.Footprint
