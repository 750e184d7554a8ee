import PathEdit.Value.Finite

/-! JSON documents as trees, and the two ways between them and values. An integer of a document has
64 bits, with or without sign, and a float is always finite: a float that is no number becomes a
null on its way into a document, and an integer that only fits without sign becomes a float on its
way out. -/
namespace PathEdit

namespace Json

/-- A number of a document. -/
inductive Number where
  | natural (n : UInt64)
  | negative (n : Int64) (below : n < 0)
  | float (x : Binary64) (finite : x.isFinite = true)

namespace Number

/-- The number of an integer with sign. -/
def ofInt64 (n : Int64) : Number := if below : n < 0 then negative n below else natural n.toUInt64

/-- The number of an integer of any width, if 64 bits are enough for it. -/
def ofInt? (n : Int) : Option Number :=
  if Int64.minValue.toInt ≤ n ∧ n ≤ Int64.maxValue.toInt then some (ofInt64 (Int64.ofInt n))
  else if 0 ≤ n ∧ n.toNat < UInt64.size then some (natural (UInt64.ofNat n.toNat))
  else none

/-- The number of a float, if it is finite. -/
def ofFloat? (x : Binary64) : Option Number :=
  if finite : x.isFinite = true then some (float x finite) else none

/-- The integer with sign that a number is, if it is one. -/
def toInt64? : Number → Option Int64
  | natural n => if n.toNat < Nat.pow 2 63 then some n.toInt64 else none
  | negative n _ => some n
  | float _ _ => none

/-- The double nearest to a number. -/
def toFloat : Number → Binary64
  | natural n => .ofNat n.toNat
  | negative n _ => .ofInt n.toInt
  | float x _ => x

/-- The value of a number: an integer if it is one with sign, a float otherwise. -/
def value (n : Number) : Value :=
  match n.toInt64? with
  | some i => .integer i
  | none => .float n.toFloat

/-- An integer with sign comes back from a document. -/
theorem value_ofInt64 (n : Int64) : (ofInt64 n).value = .integer n := by
  unfold ofInt64
  split
  · rfl
  · rename_i nonneg
    have small : n.toUInt64.toNat < Nat.pow 2 63 := by
      rw [Int64.toNat_toUInt64_of_le (Int64.not_lt.mp nonneg), Int64.toNatClampNeg]
      have bound := n.toInt_lt
      rw [Nat.pow_eq]
      omega
    rw [value, toInt64?, if_pos small]
    rfl

/-- An integer without sign becomes the value of its number. -/
theorem value_natural (n : UInt64) : (natural n).value = .ofNat n.toNat := by
  rw [value, toInt64?, Value.ofNat]
  by_cases small : n.toNat < Nat.pow 2 63
  · rw [if_pos small, if_pos small, ← UInt64.toInt64_ofNat', UInt64.ofNat_toNat]
  · rw [if_neg small, if_neg small, toFloat]

end Number

/-- A JSON document. Of several entries of an object under one name the last counts. -/
inductive Node where
  | null
  | boolean (b : Bool)
  | number (n : Number)
  | string (s : String)
  | array (items : List Node)
  | object (entries : List (String × Node))

namespace Node

/-- A float as a part of a document; one that is no number has none. -/
def ofFloat (x : Binary64) : Node := (Number.ofFloat? x).elim null number

mutual

/-- The value of a document. -/
def value : Node → Value
  | null => .null
  | boolean b => .boolean b
  | number n => n.value
  | string s => .string s
  | array items => .array (values items)
  | object entries => .object (.ofList (entryValues entries))

def values : List Node → List Value
  | [] => []
  | item :: rest => item.value :: values rest

def entryValues : List (String × Node) → List (String × Value)
  | [] => []
  | (name, item) :: rest => (name, item.value) :: entryValues rest

end

theorem values_eq_map (items : List Node) : values items = items.map value := by
  induction items with
  | nil => rfl
  | cons item rest ih => rw [values, ih, List.map_cons]

theorem entryValues_eq_map (entries : List (String × Node)) :
    entryValues entries = entries.map fun entry => (entry.1, entry.2.value) := by
  induction entries with
  | nil => rfl
  | cons entry rest ih => rw [entryValues, ih, List.map_cons]

theorem value_ofFloat (x : Binary64) : (ofFloat x).value = (Value.float x).finite := by
  rw [ofFloat, Number.ofFloat?, Value.finite_float]
  by_cases finite : x.isFinite = true
  · rw [dif_pos finite, if_pos finite]
    rfl
  · rw [dif_neg finite, if_neg finite]
    rfl

end Node
end Json

namespace Tree

mutual

/-- The document of a tree. -/
def node : Tree → Json.Node
  | null => .null
  | boolean b => .boolean b
  | integer n => .number (.ofInt64 n)
  | float x => .ofFloat x
  | string s => .string s
  | array items => .array (itemNodes items)
  | object entries => .object (entryNodes entries)

def itemNodes : List Tree → List Json.Node
  | [] => []
  | item :: rest => item.node :: itemNodes rest

def entryNodes : List (String × Tree) → List (String × Json.Node)
  | [] => []
  | (name, item) :: rest => (name, item.node) :: entryNodes rest

end

theorem itemNodes_eq_map (items : List Tree) : itemNodes items = items.map node := by
  induction items with
  | nil => rfl
  | cons item rest ih => rw [itemNodes, ih, List.map_cons]

theorem entryNodes_eq_map (entries : List (String × Tree)) :
    entryNodes entries = entries.map fun entry => (entry.1, entry.2.node) := by
  induction entries with
  | nil => rfl
  | cons entry rest ih => rw [entryNodes, ih, List.map_cons]

end Tree

namespace Value

/-- The document of a value. -/
def node (value : Value) : Json.Node := value.tree.node

theorem node_array (items : List Value) : (array items).node = .array (items.map node) := by
  rw [node, array, Tree.node, Tree.itemNodes_eq_map, List.map_map]
  rfl

theorem node_object (fields : Fields Value) :
    (object fields).node = .object (fields.map node).entries := by
  rw [node, object, Tree.node, Tree.entryNodes_eq_map]
  exact congrArg Json.Node.object (List.map_map ..)

/-- Through its document a value comes back with nulls for the floats that are no numbers. -/
theorem value_node (value : Value) : value.node.value = value.finite := by
  induction value using Value.induct with
  | scalar value alone =>
    obtain ⟨tree, ordered⟩ := value
    cases tree with
    | null | boolean | string => rfl
    | integer n => exact Json.Number.value_ofInt64 n
    | float x => exact Json.Node.value_ofFloat x
    | array | object => cases alone
  | array items each =>
    rw [node_array, Json.Node.value, Json.Node.values_eq_map, List.map_map, finite_array]
    exact congrArg array (List.map_congr_left each)
  | object fields each =>
    have back : (fields.map node).map Json.Node.value = fields.map finite := by
      refine Fields.ext_get? fun name => ?_
      rw [Fields.get?_map, Fields.get?_map, Fields.get?_map, Option.map_map]
      exact Option.map_congr fun item found => each name item found
    rw [node_object, Json.Node.value, Json.Node.entryValues_eq_map, finite_object, ← back]
    exact congrArg object (Fields.ofList_entries ((fields.map node).map Json.Node.value))

end Value
end PathEdit
