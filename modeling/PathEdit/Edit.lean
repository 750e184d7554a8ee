import PathEdit.Error
import PathEdit.Path.Basic

/-! Edits of values through paths.

Writing makes what it needs on the way: a slot that does not hold the container that the next step
leads into becomes an empty one, and an array is padded with nulls up to the position. A wildcard
stands for the elements that are there. Removing makes nothing, and leaves a value alone where the
path leads nowhere. Only the root keeps its kind. -/
namespace PathEdit

namespace Value

/-- The list with nulls behind it up to a length. -/
def padded (items : List Value) (length : Nat) : List Value :=
  items ++ List.replicate (length - items.length) null

theorem length_padded (items : List Value) (length : Nat) :
    (padded items length).length = max items.length length := by
  simp only [padded, List.length_append, List.length_replicate]
  omega

theorem getElem?_padded (items : List Value) (length i : Nat) :
    (padded items length)[i]?.getD null = items[i]?.getD null := by
  rw [padded, List.getElem?_append]
  split
  · rfl
  · rename_i beyond
    rw [List.getElem?_eq_none (Nat.le_of_not_lt beyond), List.getElem?_replicate]
    split <;> rfl

theorem getElem?_padded_of_lt (items : List Value) {length i : Nat} (inside : i < length) :
    (padded items length)[i]? = some (items[i]?.getD null) := by
  have there : i < (padded items length).length := by
    rw [length_padded]
    omega
  rw [← getElem?_padded items length, List.getElem?_eq_getElem there, Option.getD_some]

theorem padded_of_length_le {items : List Value} {length : Nat} (long : length ≤ items.length) :
    padded items length = items := by
  rw [padded, Nat.sub_eq_zero_of_le long, List.replicate_zero, List.append_nil]

/-- Puts `f` of the value at a path in its place, `f` of null where there is none. -/
def write (f : Value → Value) : Path → Value → Value
  | [], value => f value
  | .key name :: path, value =>
    let fields := value.fields
    object (fields.insert name (write f path ((fields.get? name).getD null)))
  | .position index :: path, value =>
    array ((padded value.items (index.toNat + 1)).modify index.toNat (write f path))
  | .wildcard :: path, value => array (value.items.map (write f path))

/-- Changes the entries of an object. -/
def mapFields (f : Fields Value → Fields Value) (value : Value) : Value :=
  match value.fields? with
  | some fields => object (f fields)
  | none => value

/-- Changes the elements of an array. -/
def mapItems (f : List Value → List Value) (value : Value) : Value :=
  match value.items? with
  | some items => array (f items)
  | none => value

@[simp] theorem mapFields_object (f : Fields Value → Fields Value) (fields : Fields Value) :
    (object fields).mapFields f = object (f fields) := by
  simp [mapFields, fields?]

@[simp] theorem mapItems_array (f : List Value → List Value) (items : List Value) :
    (array items).mapItems f = array (f items) := by
  simp [mapItems, items?]

theorem mapFields_of_kind_ne {value : Value} (other : value.kind ≠ .object)
    (f : Fields Value → Fields Value) : value.mapFields f = value := by
  rw [mapFields, fields?_of_kind_ne other]

theorem mapItems_of_kind_ne {value : Value} (other : value.kind ≠ .array)
    (f : List Value → List Value) : value.mapItems f = value := by
  rw [mapItems, items?_of_kind_ne other]

/-- Takes the entry or the elements at a path out of their container. -/
def remove : Path → Value → Value
  | [], value => value
  | [.key name], value => value.mapFields (·.erase name)
  | [.position index], value => value.mapItems (·.eraseIdx index.toNat)
  | [.wildcard], value => value.mapItems fun _ => []
  | .key name :: path, value => value.mapFields (·.modify name (remove path))
  | .position index :: path, value => value.mapItems (·.modify index.toNat (remove path))
  | .wildcard :: path, value => value.mapItems (·.map (remove path))

/-- The empty container of the kind of a value, an object for a scalar. -/
def emptied (value : Value) : Value :=
  if value.kind = .array then array [] else object .empty

/-- The value at a path without wildcards. -/
def follow? : Path → Value → Option Value
  | [], value => some value
  | .key name :: path, value => (value.get? name).bind (follow? path)
  | .position index :: path, value => (value.at? index.toNat).bind (follow? path)
  | .wildcard :: _, _ => none

end Value

/-- What an edit does at the end of its path. -/
inductive Operation where
  | set (value : Value)
  | unset
  | apply (f : Value → Value)

namespace Operation

def name : Operation → String
  | set _ => "set"
  | unset => "unset"
  | apply _ => "apply"

/-- What an operation makes of a whole root. -/
def onRoot (operation : Operation) (root : Value) : Value :=
  match operation with
  | set value => value
  | unset => root.emptied
  | apply f => f root

/-- What an operation makes of a root through a path with steps. -/
def onPath (operation : Operation) (path : Path) (root : Value) : Value :=
  match operation with
  | set value => root.write (fun _ => value) path
  | unset => root.remove path
  | apply f => root.write f path

end Operation

/-- An operation at a path; the empty path addresses the whole root. -/
structure Edit where
  path : Path
  operation : Operation

namespace Edit

/-- The first position of a path beyond the largest one. -/
def beyond? : Path → Option UInt64
  | [] => none
  | .position index :: path => if maxPosition < index then some index else beyond? path
  | _ :: path => beyond? path

/-- Why an edit through a path does not fit a root, if it does not. -/
def misfit? (path : Path) (root : Value) : Option Error :=
  match beyond? path with
  | some index => some (.indexOutOfRange index)
  | none =>
    match path with
    | [] => none
    | .key _ :: _ =>
      if root.kind = .object then none else some (.typeMismatch .object root.kind)
    | .position _ :: _ | .wildcard :: _ =>
      if root.kind = .array then none else some (.typeMismatch .array root.kind)

/-- The root after an edit. -/
def run (edit : Edit) (root : Value) : Except Error Value :=
  match edit.path with
  | [] =>
    let replacement := edit.operation.onRoot root
    if replacement.isContainer then .ok replacement
    else .error (.typeMismatch .container replacement.kind)
  | path =>
    match misfit? path root with
    | some error => .error error
    | none => .ok (edit.operation.onPath path root)

/-- The path of an edit, or that it replaces the root. -/
def text (edit : Edit) : String := if edit.path.isEmpty then "<root>" else edit.path.text

end Edit
end PathEdit
