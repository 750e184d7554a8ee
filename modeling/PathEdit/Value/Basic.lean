import PathEdit.Fields
import PathEdit.Value.Tree

/-! Values: trees whose objects are finite maps. A value is seen one level at a time through
`Value.view`, and `View.value` builds it back; the two undo each other, so no definition outside
this module meets the order of entries. -/
namespace PathEdit

/-- A tree of scalars, arrays and objects. -/
structure Value where
  tree : Tree
  ordered : tree.Ordered
deriving DecidableEq

/-- One level of a value. -/
inductive View (α : Type) where
  | null
  | boolean (b : Bool)
  | integer (n : Int64)
  | float (x : Binary64)
  | string (s : String)
  | array (items : List α)
  | object (fields : Fields α)

/-- What a value is, without its content. -/
inductive Kind where
  | null
  | boolean
  | integer
  | float
  | string
  | array
  | object
deriving DecidableEq

def Kind.name : Kind → String
  | null => "null"
  | boolean => "boolean"
  | integer => "integer"
  | float => "float"
  | string => "string"
  | array => "array"
  | object => "object"

namespace Value

def null : Value := ⟨.null, .null⟩

def boolean (b : Bool) : Value := ⟨.boolean b, .boolean b⟩

def integer (n : Int64) : Value := ⟨.integer n, .integer n⟩

def float (x : Binary64) : Value := ⟨.float x, .float x⟩

def string (s : String) : Value := ⟨.string s, .string s⟩

def array (items : List Value) : Value :=
  ⟨.array (items.map tree), .array fun item member => by
    obtain ⟨value, _, same⟩ := List.mem_map.mp member
    exact same ▸ value.ordered⟩

def object (fields : Fields Value) : Value :=
  ⟨.object (fields.map tree).entries, .object (fields.map tree).ascending fun entry member => by
    obtain ⟨before, _, same⟩ := List.mem_map.mp member
    exact same ▸ before.2.ordered⟩

instance : Inhabited Value := ⟨null⟩

/-- The value one level deep. -/
def view (value : Value) : View Value :=
  match value with
  | ⟨.null, _⟩ => .null
  | ⟨.boolean b, _⟩ => .boolean b
  | ⟨.integer n, _⟩ => .integer n
  | ⟨.float x, _⟩ => .float x
  | ⟨.string s, _⟩ => .string s
  | ⟨.array items, ordered⟩ =>
    .array (items.attach.map fun item => ⟨item.1, ordered.items item.1 item.2⟩)
  | ⟨.object entries, ordered⟩ =>
    .object ⟨entries.attach.map fun entry =>
        (entry.1.1, ⟨entry.1.2, ordered.entries entry.1 entry.2⟩),
      by
        have names : (entries.attach.map fun entry => entry.1.1) = entries.map Prod.fst :=
          List.ext_getElem (by simp) fun i _ _ => by simp
        simpa [Function.comp_def, names] using ordered.ascending⟩

end Value

/-- The value with one given level. -/
def View.value : View Value → Value
  | .null => .null
  | .boolean b => .boolean b
  | .integer n => .integer n
  | .float x => .float x
  | .string s => .string s
  | .array items => .array items
  | .object fields => .object fields

namespace Value

@[simp] theorem view_null : null.view = .null := rfl

@[simp] theorem view_boolean (b : Bool) : (boolean b).view = .boolean b := rfl

@[simp] theorem view_integer (n : Int64) : (integer n).view = .integer n := rfl

@[simp] theorem view_float (x : Binary64) : (float x).view = .float x := rfl

@[simp] theorem view_string (s : String) : (string s).view = .string s := rfl

@[simp] theorem view_array (items : List Value) : (array items).view = .array items := by
  simp only [view, array]
  exact congrArg _ (List.ext_getElem (by simp) fun i _ _ => by simp)

@[simp] theorem view_object (fields : Fields Value) : (object fields).view = .object fields := by
  obtain ⟨entries, ascending⟩ := fields
  simp only [view, object, Fields.map, View.object.injEq, Fields.mk.injEq]
  exact List.ext_getElem (by simp) fun i _ _ => by simp

/-- A value is built from its level. -/
theorem value_view (value : Value) : value.view.value = value := by
  obtain ⟨tree, ordered⟩ := value
  cases tree with
  | null | boolean | integer | float | string => rfl
  | array items =>
    simp only [view, View.value, array, mk.injEq, Tree.array.injEq]
    exact List.ext_getElem (by simp) fun i _ _ => by simp
  | object entries =>
    simp only [view, View.value, object, Fields.map, mk.injEq, Tree.object.injEq]
    exact List.ext_getElem (by simp) fun i _ _ => by simp

theorem eq_of_view {left right : Value} (same : left.view = right.view) : left = right := by
  rw [← value_view left, same, value_view]

def kind (value : Value) : Kind :=
  match value.view with
  | .null => .null
  | .boolean _ => .boolean
  | .integer _ => .integer
  | .float _ => .float
  | .string _ => .string
  | .array _ => .array
  | .object _ => .object

def isNull (value : Value) : Bool := value.kind = .null

/-- Arrays and objects are the containers. -/
def isContainer (value : Value) : Bool := value.kind = .array || value.kind = .object

theorem isContainer_iff {value : Value} :
    value.isContainer = true ↔ value.kind = .array ∨ value.kind = .object := by
  rw [isContainer, Bool.or_eq_true, decide_eq_true_iff, decide_eq_true_iff]

def fields? (value : Value) : Option (Fields Value) :=
  match value.view with
  | .object fields => some fields
  | _ => none

def items? (value : Value) : Option (List Value) :=
  match value.view with
  | .array items => some items
  | _ => none

def string? (value : Value) : Option String :=
  match value.view with
  | .string s => some s
  | _ => none

/-- The entries of an object; any other value has none. -/
def fields (value : Value) : Fields Value := value.fields?.getD .empty

/-- The elements of an array; any other value has none. -/
def items (value : Value) : List Value := value.items?.getD []

/-- The entry under a name of an object. -/
def get? (value : Value) (name : String) : Option Value := value.fields.get? name

/-- The element at a position of an array. -/
def at? (value : Value) (position : Nat) : Option Value := value.items[position]?

/-- The integer of a number without a fraction part, clamped to the range of integers. -/
def toInt? (value : Value) : Option Int64 :=
  match value.view with
  | .integer n => some n
  | .float x => x.toInt?.map fun n => Int64.ofInt (max (min n Int64.maxValue.toInt) Int64.minValue.toInt)
  | _ => none

/-- The double nearest to a number. -/
def toFloat? (value : Value) : Option Binary64 :=
  match value.view with
  | .integer n => some (.ofInt n.toInt)
  | .float x => some x
  | _ => none

/-- The value of a natural number: an integer, or the nearest float when it is too large. -/
def ofNat (n : Nat) : Value :=
  if n < Nat.pow 2 63 then integer (Int64.ofNat n) else float (.ofNat n)

@[simp] theorem fields_object (fields : Fields Value) : (object fields).fields = fields := by
  simp [Value.fields, fields?]

@[simp] theorem items_array (items : List Value) : (array items).items = items := by
  simp [Value.items, items?]

@[simp] theorem fields_array (items : List Value) : (array items).fields = .empty := by
  simp [Value.fields, fields?]

@[simp] theorem items_object (fields : Fields Value) : (object fields).items = [] := by
  simp [Value.items, items?]

@[simp] theorem kind_array (items : List Value) : (array items).kind = .array := by
  simp [kind]

@[simp] theorem kind_object (fields : Fields Value) : (object fields).kind = .object := by
  simp [kind]

/-- An object is made of its entries. -/
theorem object_fields {value : Value} (same : value.kind = .object) :
    object value.fields = value := by
  rw [kind] at same
  split at same <;> cases same
  rename_i fields level
  rw [Value.fields, fields?, level]
  exact eq_of_view ((view_object fields).trans level.symm)

/-- An array is made of its elements. -/
theorem array_items {value : Value} (same : value.kind = .array) : array value.items = value := by
  rw [kind] at same
  split at same <;> cases same
  rename_i items level
  rw [Value.items, items?, level]
  exact eq_of_view ((view_array items).trans level.symm)

theorem eq_string_of_string? {value : Value} {s : String} (found : value.string? = some s) :
    value = string s := by
  rw [string?] at found
  split at found <;> cases found
  rename_i level
  exact eq_of_view (level.trans (view_string s).symm)

theorem fields?_of_kind_ne {value : Value} (other : value.kind ≠ .object) : value.fields? = none := by
  rw [fields?]
  split
  · rename_i fields level
    exact absurd (by rw [kind, level]) other
  · rfl

theorem items?_of_kind_ne {value : Value} (other : value.kind ≠ .array) : value.items? = none := by
  rw [items?]
  split
  · rename_i items level
    exact absurd (by rw [kind, level]) other
  · rfl

theorem fields_of_kind_ne {value : Value} (other : value.kind ≠ .object) : value.fields = .empty := by
  rw [Value.fields, fields?_of_kind_ne other, Option.getD_none]

theorem items_of_kind_ne {value : Value} (other : value.kind ≠ .array) : value.items = [] := by
  rw [Value.items, items?_of_kind_ne other, Option.getD_none]

/-- Only an object has entries. -/
theorem kind_of_get? {value item : Value} {name : String}
    (found : value.fields.get? name = some item) : value.kind = .object := by
  refine Decidable.byContradiction fun other => ?_
  rw [fields_of_kind_ne other] at found
  cases found

/-- Only an array has elements. -/
theorem kind_of_mem {value item : Value} (member : item ∈ value.items) : value.kind = .array := by
  refine Decidable.byContradiction fun other => ?_
  rw [items_of_kind_ne other] at member
  cases member

theorem array_inj {items others : List Value} : array items = array others ↔ items = others := by
  refine ⟨fun same => ?_, congrArg array⟩
  simpa using congrArg view same

theorem object_inj {fields others : Fields Value} :
    object fields = object others ↔ fields = others := by
  refine ⟨fun same => ?_, congrArg object⟩
  simpa using congrArg view same

theorem array_ne_object {items : List Value} {fields : Fields Value} :
    array items ≠ object fields :=
  fun same => by simpa using congrArg view same

/-- Values are built up from scalars. -/
@[elab_as_elim]
theorem induct {motive : Value → Prop} (scalar : ∀ value, value.isContainer = false → motive value)
    (array : ∀ items, (∀ item ∈ items, motive item) → motive (array items))
    (object : ∀ fields, (∀ name item, fields.get? name = some item → motive item) →
      motive (object fields)) (value : Value) : motive value := by
  obtain ⟨tree, ordered⟩ := value
  induction ordered with
  | null | boolean | integer | float | string => exact scalar _ rfl
  | array each ih =>
    rw [← value_view ⟨.array _, _⟩]
    refine array _ fun item member => ?_
    obtain ⟨before, -, rfl⟩ := List.mem_map.mp member
    exact ih before.1 before.2
  | object ascending each ih =>
    rw [← value_view ⟨.object _, _⟩]
    refine object _ fun name item found => ?_
    obtain ⟨before, -, same⟩ := List.mem_map.mp (Fields.mem_entries_iff.mpr found)
    cases same
    exact ih before.1 before.2

end Value
end PathEdit
