import PathEdit.Regex.Footprint.Draft
import PathEdit.Regex.Footprint.Shared
import PathEdit.Regex.Utf8

/-! The part of an automaton that reads one character of a set.

Forwards, the sequences of byte ranges form a tree whose equal branches are shared. Backwards, each
sequence is a path of its own that leads to a common end, and shares its last states with others. -/
namespace PathEdit.Regex.Footprint

/-- A draft with the states of it that may be shared. -/
structure Sharing where
  draft : Draft
  shared : Shared

namespace Sharing

/-- The state of a description, and a draft that has it. -/
def state (sharing : Sharing) (description : List Nat) (ranges : Nat) : Nat × Sharing :=
  match sharing.shared.find? description with
  | some state => (state, sharing)
  | none =>
    let state := sharing.draft.states
    let draft := sharing.draft.addRanges ranges
    (state, ⟨draft, sharing.shared.remember description state⟩)

end Sharing

/-- Sequences that begin with the same range, behind it. -/
structure Branch where
  range : ByteRange
  behind : List (List ByteRange)

/-- Gathers neighbouring sequences that begin with the same range. -/
def branches : List (List ByteRange) → List Branch
  | [] => []
  | [] :: rest => branches rest
  | (range :: behind) :: rest =>
    match branches rest with
    | branch :: others =>
      if branch.range = range then ⟨range, behind :: branch.behind⟩ :: others
      else ⟨range, [behind]⟩ :: branch :: others
    | [] => [⟨range, [behind]⟩]

/-- Draws the tree of some sequences, the branches of a node before the node, and gives its number.
The fuel is the length of the longest sequence. -/
def drawTree (target : Nat) : Nat → List (List ByteRange) → Sharing → Nat × Sharing
  | 0, _, sharing => (target, sharing)
  | fuel + 1, sequences, sharing =>
    if sequences.all List.isEmpty then (target, sharing)
    else
      let found := branches sequences
      let (description, sharing) := found.foldl (fun (description, sharing) branch =>
        let (next, sharing) := drawTree target fuel branch.behind sharing
        (description ++ [branch.range.first, branch.range.last, next], sharing)) ([], sharing)
      sharing.state description found.length

/-- Draws the path of one sequence against its direction, from its end, and gives its beginning. -/
def drawPath (sharing : Sharing) (start : Nat) (sequence : List ByteRange) : Nat × Sharing :=
  sequence.foldl (fun (behind, sharing) range =>
    sharing.state [behind, range.first, range.last] 0) (start, sharing)

/-- Draws the part that reads one character of a set. -/
def drawSet (direction : Direction) (set : CharSet) (draft : Draft) : Draft :=
  if set.isEmpty then draft.add 1
  else if set.isAscii then (draft.add 1).addRanges set.ranges.length
  else
    let sequences := Utf8.sequences set
    match direction with
    | .forwards =>
      (drawTree draft.states 4 sequences ⟨draft.add 1, .empty 10000⟩).2.draft
    | .backwards =>
      let ending := draft.states + 1
      let start : Sharing := ⟨(draft.addFork sequences.length).add 1, .empty 1000⟩
      (sequences.foldl (fun sharing sequence => (drawPath sharing ending sequence).2) start).draft

end PathEdit.Regex.Footprint
