import PathEdit.Value.Basic

/-! The shape of a value: how deep it is, which floats are in it, and what is left of it when only
the kinds of its scalars count. -/
namespace PathEdit

namespace Tree

mutual

/-- How many arrays and objects are inside each other. -/
def depth : Tree → Nat
  | array items => itemsDepth items + 1
  | object entries => entriesDepth entries + 1
  | _ => 0

def itemsDepth : List Tree → Nat
  | [] => 0
  | item :: rest => max item.depth (itemsDepth rest)

def entriesDepth : List (String × Tree) → Nat
  | [] => 0
  | (_, item) :: rest => max item.depth (entriesDepth rest)

end

mutual

def floats : Tree → List Binary64
  | float x => [x]
  | array items => itemsFloats items
  | object entries => entriesFloats entries
  | _ => []

def itemsFloats : List Tree → List Binary64
  | [] => []
  | item :: rest => item.floats ++ itemsFloats rest

def entriesFloats : List (String × Tree) → List Binary64
  | [] => []
  | (_, item) :: rest => item.floats ++ entriesFloats rest

end

mutual

/-- The tree with nothing left of its scalars but their kinds. -/
def outline : Tree → Tree
  | null => null
  | boolean _ => boolean false
  | integer _ => integer 0
  | float _ => float (.zero false)
  | string _ => string ""
  | array items => array (itemsOutline items)
  | object entries => object (entriesOutline entries)

def itemsOutline : List Tree → List Tree
  | [] => []
  | item :: rest => item.outline :: itemsOutline rest

def entriesOutline : List (String × Tree) → List (String × Tree)
  | [] => []
  | (name, item) :: rest => (name, item.outline) :: entriesOutline rest

end

theorem itemsDepth_le_iff {items : List Tree} {n : Nat} :
    itemsDepth items ≤ n ↔ ∀ item ∈ items, item.depth ≤ n := by
  induction items with
  | nil => simp [itemsDepth]
  | cons item rest ih => rw [itemsDepth, Nat.max_le, ih, List.forall_mem_cons]

theorem entriesDepth_le_iff {entries : List (String × Tree)} {n : Nat} :
    entriesDepth entries ≤ n ↔ ∀ entry ∈ entries, entry.2.depth ≤ n := by
  induction entries with
  | nil => simp [entriesDepth]
  | cons entry rest ih => rw [entriesDepth, Nat.max_le, ih, List.forall_mem_cons]

theorem itemsFloats_eq_flatMap (items : List Tree) : itemsFloats items = items.flatMap floats := by
  induction items with
  | nil => rfl
  | cons item rest ih => rw [itemsFloats, ih, List.flatMap_cons]

theorem entriesFloats_eq_flatMap (entries : List (String × Tree)) :
    entriesFloats entries = entries.flatMap fun entry => entry.2.floats := by
  induction entries with
  | nil => rfl
  | cons entry rest ih => rw [entriesFloats, ih, List.flatMap_cons]

theorem itemsOutline_eq_map (items : List Tree) : itemsOutline items = items.map outline := by
  induction items with
  | nil => rfl
  | cons item rest ih => rw [itemsOutline, ih, List.map_cons]

theorem entriesOutline_eq_map (entries : List (String × Tree)) :
    entriesOutline entries = entries.map fun entry => (entry.1, entry.2.outline) := by
  induction entries with
  | nil => rfl
  | cons entry rest ih => rw [entriesOutline, ih, List.map_cons]

end Tree

namespace Value

/-- How many levels of arrays and objects a value has. -/
def depth (value : Value) : Nat := value.tree.depth

/-- All floats in a value. -/
def floats (value : Value) : List Binary64 := value.tree.floats

/-- Whether two values have the same arrays and objects, and scalars of the same kinds in the same
places. -/
def SameKinds (left right : Value) : Prop := left.tree.outline = right.tree.outline

end Value
end PathEdit
