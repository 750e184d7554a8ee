import PathEdit.Value.Basic

/-! Values without floats that are no numbers, which have no JSON form. -/
namespace PathEdit

namespace Tree

mutual

/-- The tree with nulls in place of infinities and NaNs. -/
def finite : Tree → Tree
  | .float x => if x.isFinite then .float x else .null
  | .array items => .array (finiteItems items)
  | .object entries => .object (finiteEntries entries)
  | tree => tree

def finiteItems : List Tree → List Tree
  | [] => []
  | item :: rest => item.finite :: finiteItems rest

def finiteEntries : List (String × Tree) → List (String × Tree)
  | [] => []
  | (name, item) :: rest => (name, item.finite) :: finiteEntries rest

end

theorem finiteItems_eq_map (items : List Tree) : finiteItems items = items.map finite := by
  induction items with
  | nil => rfl
  | cons item rest ih => rw [finiteItems, List.map_cons, ih]

theorem finiteEntries_eq_map (entries : List (String × Tree)) :
    finiteEntries entries = entries.map fun entry => (entry.1, entry.2.finite) := by
  induction entries with
  | nil => rfl
  | cons entry rest ih => rw [finiteEntries, List.map_cons, ih]

theorem Ordered.finite {tree : Tree} (ordered : tree.Ordered) : tree.finite.Ordered := by
  induction ordered with
  | null => exact .null
  | boolean b => exact .boolean b
  | integer n => exact .integer n
  | float x =>
    rw [Tree.finite]
    split
    · exact .float x
    · exact .null
  | string s => exact .string s
  | array _ ih =>
    rw [Tree.finite, finiteItems_eq_map]
    exact .array fun item member => by
      obtain ⟨before, present, same⟩ := List.mem_map.mp member
      exact same ▸ ih before present
  | object ascending _ ih =>
    rw [Tree.finite, finiteEntries_eq_map]
    refine .object (by simpa [Function.comp_def] using ascending) fun entry member => ?_
    obtain ⟨before, present, same⟩ := List.mem_map.mp member
    exact same ▸ ih before present

end Tree

namespace Value

/-- The value with nulls in place of infinities and NaNs. -/
def finite (value : Value) : Value := ⟨value.tree.finite, value.ordered.finite⟩

@[simp] theorem finite_null : null.finite = null := rfl

@[simp] theorem finite_boolean (b : Bool) : (boolean b).finite = boolean b := rfl

@[simp] theorem finite_integer (n : Int64) : (integer n).finite = integer n := rfl

@[simp] theorem finite_string (s : String) : (string s).finite = string s := rfl

theorem finite_float (x : Binary64) :
    (float x).finite = if x.isFinite = true then float x else null := by
  simp only [finite, float, Tree.finite]
  split <;> rfl

theorem finite_array (items : List Value) : (array items).finite = array (items.map finite) := by
  simp only [finite, array, Tree.finite, Tree.finiteItems_eq_map, List.map_map]
  rfl

theorem finite_object (fields : Fields Value) :
    (object fields).finite = object (fields.map finite) := by
  simp only [finite, object, Tree.finite, Tree.finiteEntries_eq_map, Fields.map, List.map_map]
  rfl

end Value
end PathEdit
