import PathEdit.Regex.Footprint.Draft

/-! The part of an automaton that reads one of several texts: a tree of their common beginnings, in
which the order of preference is kept. -/
namespace PathEdit.Regex.Footprint

/-- What the texts that pass a node have behind it, by their next byte. A text that ends at the node
parts those before it from those behind it. -/
structure Node where
  finished : List (List (Nat × List (List Nat)))
  current : List (Nat × List (List Nat))

namespace Node

/-- Puts a text behind others with the same next byte. -/
def insert (byte : Nat) (behind : List Nat) :
    List (Nat × List (List Nat)) → List (Nat × List (List Nat))
  | [] => [(byte, [behind])]
  | (other, texts) :: rest =>
    if other = byte then (byte, texts ++ [behind]) :: rest
    else (other, texts) :: insert byte behind rest

def add (node : Node) : List Nat → Node
  | byte :: behind => { node with current := insert byte behind node.current }
  | [] =>
    if node.current.isEmpty && node.finished.all List.isEmpty && !node.finished.isEmpty then node
    else { finished := node.finished ++ [node.current], current := [] }

def ofTexts (texts : List (List Nat)) : Node := texts.foldl add ⟨[], []⟩

def groups (node : Node) : List (List (Nat × List (List Nat))) := node.finished ++ [node.current]

end Node

/-- Draws the states of a node and of all behind it. The fuel is the length of the longest text. -/
def drawNode : Nat → List (List Nat) → Draft → Draft
  | 0, _, draft => draft
  | fuel + 1, texts, draft =>
    let node := Node.ofTexts texts
    let draft := node.groups.foldl (fun draft group =>
      let draft := group.foldl (fun draft (_, behind) =>
        if behind.all List.isEmpty then draft else drawNode fuel behind draft) draft
      match group.length with
      | 0 => draft
      | 1 => draft.add 1
      | ways => draft.addRanges ways) draft
    let groups := (node.groups.filter fun group => !group.isEmpty).length
    draft.addFork (groups + node.finished.length)

/-- Draws the part that reads one of several texts, given by their bytes. -/
def drawWords (texts : List (List Nat)) (draft : Draft) : Draft :=
  drawNode ((texts.map List.length).foldl max 0 + 1) texts (draft.add 1)

end PathEdit.Regex.Footprint
