import PathEdit.Edit
import PathEdit.Value.Finite

/-! Nulls in place of infinities and NaNs, seen from the paths of a value: nothing moves, and
nothing but these floats becomes something else. -/
namespace PathEdit

namespace Fields

variable {α β : Type}

theorem map_insert (f : α → β) (fields : Fields α) (name : String) (a : α) :
    (fields.insert name a).map f = (fields.map f).insert name (f a) := by
  refine ext_get? fun other => ?_
  rw [get?_map, get?_insert, get?_insert, get?_map]
  split <;> rfl

private theorem map_foldl_insert (f : α → β) (entries : List (String × α)) (fields : Fields α) :
    (entries.foldl (fun fields entry => fields.insert entry.1 entry.2) fields).map f =
      (entries.map fun entry => (entry.1, f entry.2)).foldl
        (fun fields entry => fields.insert entry.1 entry.2) (fields.map f) := by
  induction entries generalizing fields with
  | nil => rfl
  | cons entry rest ih => rw [List.foldl_cons, ih, map_insert, List.map_cons, List.foldl_cons]

/-- A function may be applied before the entries become a map. -/
theorem map_ofList (f : α → β) (entries : List (String × α)) :
    (ofList entries).map f = ofList (entries.map fun entry => (entry.1, f entry.2)) :=
  map_foldl_insert f entries empty

end Fields

namespace Value

variable {value : Value}

theorem fields_finite (value : Value) : value.finite.fields = value.fields.map finite := by
  rw [← value_view value]
  cases value.view with
  | object fields => rw [View.value, finite_object, fields_object, fields_object]
  | array items =>
    rw [View.value, finite_array, fields_array, fields_array]
    rfl
  | float x =>
    rw [View.value, finite_float]
    split <;> rfl
  | null | boolean | integer | string => rfl

theorem items_finite (value : Value) : value.finite.items = value.items.map finite := by
  rw [← value_view value]
  cases value.view with
  | object fields =>
    rw [View.value, finite_object, items_object, items_object]
    rfl
  | array items => rw [View.value, finite_array, items_array, items_array]
  | float x =>
    rw [View.value, finite_float]
    split <;> rfl
  | null | boolean | integer | string => rfl

/-- Every path leads to the same place. -/
theorem follow?_finite (path : Path) (value : Value) :
    value.finite.follow? path = (value.follow? path).map finite := by
  induction path generalizing value with
  | nil => rfl
  | cons step path ih =>
    cases step with
    | wildcard => rfl
    | key name =>
      rw [follow?, follow?, get?, get?, fields_finite, Fields.get?_map]
      cases value.fields.get? name with
      | none => rfl
      | some item => exact ih item
    | position index =>
      rw [follow?, follow?, at?, at?, items_finite, List.getElem?_map]
      cases value.items[index.toNat]? with
      | none => rfl
      | some item => exact ih item

theorem finite_eq_integer_iff {n : Int64} : value.finite = integer n ↔ value = integer n := by
  refine ⟨fun same => ?_, fun same => by rw [same, finite_integer]⟩
  rw [← value_view value] at same ⊢
  cases level : value.view with
  | integer => rwa [level] at same
  | float x =>
    rw [level, View.value, finite_float] at same
    split at same <;> cases same
  | null | boolean | string | array | object =>
    rw [level] at same
    cases same

theorem finite_eq_float_iff {x : Binary64} :
    value.finite = float x ↔ x.isFinite = true ∧ value = float x := by
  refine ⟨fun same => ?_, fun ⟨finite, same⟩ => by rw [same, finite_float, if_pos finite]⟩
  rw [← value_view value] at same ⊢
  cases level : value.view with
  | float y =>
    rw [level, View.value, finite_float] at same
    split at same
    · rename_i finite
      cases same
      exact ⟨finite, rfl⟩
    · cases same
  | null | boolean | integer | string | array | object =>
    rw [level] at same
    cases same

end Value
end PathEdit
