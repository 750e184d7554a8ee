import PathEdit.Proofs.Edit.Heredity
import PathEdit.Proofs.Value.Shape

/-! Floats under edits: a root without floats gets none but those that an edit writes. -/
namespace PathEdit

namespace Value

variable {value : Value}

theorem mem_floats_array {items : List Value} {x : Binary64} :
    x ∈ (array items).floats ↔ ∃ item ∈ items, x ∈ item.floats := by
  simp only [floats, array, Tree.floats, Tree.itemsFloats_eq_flatMap, List.flatMap_map,
    List.mem_flatMap]

theorem mem_floats_object {fields : Fields Value} {x : Binary64} :
    x ∈ (object fields).floats ↔ ∃ name item, fields.get? name = some item ∧ x ∈ item.floats := by
  simp only [floats, object, Fields.map, Tree.floats, Tree.entriesFloats_eq_flatMap,
    List.flatMap_map, List.mem_flatMap, Prod.exists, Fields.mem_entries_iff]

theorem floats_array_iff {items : List Value} :
    (array items).floats = [] ↔ ∀ item ∈ items, item.floats = [] := by
  simp only [List.eq_nil_iff_forall_not_mem, mem_floats_array, not_exists, not_and]
  exact ⟨fun each item member x => each x item member,
    fun each x item member => each item member x⟩

theorem floats_object_iff {fields : Fields Value} :
    (object fields).floats = [] ↔ ∀ name item, fields.get? name = some item → item.floats = [] := by
  simp only [List.eq_nil_iff_forall_not_mem, mem_floats_object, not_exists, not_and]
  exact ⟨fun each name item found x => each x name item found,
    fun each x name item found => each name item found x⟩

/-- Being without floats comes down to what is in a value. -/
theorem floats_hereditary : Hereditary (fun _ => True) fun value => value.floats = [] where
  zero := trivial
  shorter _ _ := trivial
  null := rfl
  object_iff := floats_object_iff
  array_iff := floats_array_iff.trans (iff_of_eq (true_and _)).symm

end Value

/-- An operation that brings no floats into a value without any. -/
def Operation.Floatless : Operation → Prop
  | set value => value.floats = []
  | unset => True
  | apply f => ∀ value : Value, value.floats = [] → (f value).floats = []

theorem Operation.Floatless.produce {operation : Operation} (floatless : operation.Floatless)
    {old : Value} (without : old.floats = []) : (operation.produce old).floats = [] := by
  cases operation with
  | set value => exact floatless
  | unset => exact without
  | apply f => exact floatless old without

theorem Edit.floats_run {edit : Edit} {root after : Value} (floatless : edit.operation.Floatless)
    (without : root.floats = []) (outcome : edit.run root = .ok after) : after.floats = [] :=
  Value.floats_hereditary.run (fun _ _ => trivial) without
    (fun _ _ without => floatless.produce without) outcome

end PathEdit
