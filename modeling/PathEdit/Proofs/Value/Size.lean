import Mathlib.Algebra.GroupWithZero.Nat
import PathEdit.Value.Basic

/-! How large a value is: how many values it is made of, and how long its longest array is. -/
namespace PathEdit

namespace Tree

mutual

/-- How many trees a tree is made of, itself among them. -/
def nodes : Tree → Nat
  | array items => itemsNodes items + 1
  | object entries => entriesNodes entries + 1
  | _ => 1

def itemsNodes : List Tree → Nat
  | [] => 0
  | item :: rest => item.nodes + itemsNodes rest

def entriesNodes : List (String × Tree) → Nat
  | [] => 0
  | (_, item) :: rest => item.nodes + entriesNodes rest

end

mutual

/-- The length of the longest array in a tree. -/
def longest : Tree → Nat
  | array items => max items.length (itemsLongest items)
  | object entries => entriesLongest entries
  | _ => 0

def itemsLongest : List Tree → Nat
  | [] => 0
  | item :: rest => max item.longest (itemsLongest rest)

def entriesLongest : List (String × Tree) → Nat
  | [] => 0
  | (_, item) :: rest => max item.longest (entriesLongest rest)

end

theorem itemsLongest_le_iff {items : List Tree} {n : Nat} :
    itemsLongest items ≤ n ↔ ∀ item ∈ items, item.longest ≤ n := by
  induction items with
  | nil => simp [itemsLongest]
  | cons item rest ih => rw [itemsLongest, Nat.max_le, ih, List.forall_mem_cons]

theorem entriesLongest_le_iff {entries : List (String × Tree)} {n : Nat} :
    entriesLongest entries ≤ n ↔ ∀ entry ∈ entries, entry.2.longest ≤ n := by
  induction entries with
  | nil => simp [entriesLongest]
  | cons entry rest ih => rw [entriesLongest, Nat.max_le, ih, List.forall_mem_cons]

theorem itemsNodes_eq_sum (items : List Tree) : itemsNodes items = (items.map nodes).sum := by
  induction items with
  | nil => rfl
  | cons item rest ih => rw [itemsNodes, ih, List.map_cons, List.sum_cons]

theorem entriesNodes_eq_sum (entries : List (String × Tree)) :
    entriesNodes entries = (entries.map fun entry => entry.2.nodes).sum := by
  induction entries with
  | nil => rfl
  | cons entry rest ih => rw [entriesNodes, ih, List.map_cons, List.sum_cons]

end Tree

namespace Value

/-- How many values a value is made of, itself among them. -/
def nodes (value : Value) : Nat := value.tree.nodes

theorem nodes_array (items : List Value) :
    (array items).nodes = (items.map nodes).sum + 1 := by
  rw [nodes, array, Tree.nodes, Tree.itemsNodes_eq_sum, List.map_map]
  rfl

theorem nodes_object (fields : Fields Value) :
    (object fields).nodes = (fields.entries.map fun entry => entry.2.nodes).sum + 1 := by
  rw [nodes, object, Tree.nodes, Tree.entriesNodes_eq_sum, Fields.map, List.map_map]
  rfl

theorem nodes_pos (value : Value) : 0 < value.nodes := by
  obtain ⟨tree, ordered⟩ := value
  cases tree <;> exact Nat.succ_pos _

/-- The length of the longest array in a value, itself included. -/
def longest (value : Value) : Nat := value.tree.longest

theorem longest_array_le_iff {items : List Value} {n : Nat} :
    (array items).longest ≤ n ↔ items.length ≤ n ∧ ∀ item ∈ items, item.longest ≤ n := by
  simp only [longest, array, Tree.longest, Nat.max_le, Tree.itemsLongest_le_iff, List.length_map,
    List.forall_mem_map]

theorem longest_object_le_iff {fields : Fields Value} {n : Nat} : (object fields).longest ≤ n ↔
    ∀ name item, fields.get? name = some item → item.longest ≤ n := by
  simp only [longest, object, Tree.longest, Tree.entriesLongest_le_iff, Fields.map,
    List.forall_mem_map, Prod.forall, Fields.mem_entries_iff]

end Value
end PathEdit
