import PathEdit.Edit
import PathEdit.Proofs.Path.Rendering

/-! The leaves of a value: the scalars and empty containers in it, with the paths that lead
there. -/
namespace PathEdit

namespace Tree

mutual

def leaves : Tree → List (Path × Value)
  | null => [([], .null)]
  | boolean b => [([], .boolean b)]
  | integer n => [([], .integer n)]
  | float x => [([], .float x)]
  | string s => [([], .string s)]
  | array items => if items.isEmpty then [([], .array [])] else itemLeaves 0 items
  | object entries => if entries.isEmpty then [([], .object .empty)] else entryLeaves entries

def itemLeaves (index : Nat) : List Tree → List (Path × Value)
  | [] => []
  | item :: rest =>
    (item.leaves.map fun leaf => (.position (.ofNat index) :: leaf.1, leaf.2)) ++
      itemLeaves (index + 1) rest

def entryLeaves : List (String × Tree) → List (Path × Value)
  | [] => []
  | (name, item) :: rest =>
    (item.leaves.map fun leaf => (.key name :: leaf.1, leaf.2)) ++ entryLeaves rest

end

theorem mem_itemLeaves : leaf ∈ itemLeaves index items ↔ ∃ i item below, items[i]? = some item ∧
    below ∈ item.leaves ∧ leaf = (.position (.ofNat (index + i)) :: below.1, below.2) := by
  induction items generalizing index with
  | nil => simp [itemLeaves]
  | cons item rest ih =>
    rw [itemLeaves, List.mem_append, ih]
    constructor
    · intro membership
      rcases membership with member | ⟨i, item, below, found, member, rfl⟩
      · obtain ⟨below, inside, rfl⟩ := List.mem_map.mp member
        exact ⟨0, item, below, rfl, inside, rfl⟩
      · exact ⟨i + 1, item, below, found, member, by rw [Nat.add_right_comm, Nat.add_assoc]⟩
    · intro membership
      obtain ⟨i, item, below, found, member, rfl⟩ := membership
      cases i with
      | zero =>
        cases found
        exact .inl (List.mem_map.mpr ⟨below, member, rfl⟩)
      | succ i =>
        exact .inr ⟨i, item, below, found, member, by rw [Nat.add_right_comm, Nat.add_assoc]⟩

theorem mem_entryLeaves : leaf ∈ entryLeaves entries ↔ ∃ name item below, (name, item) ∈ entries ∧
    below ∈ item.leaves ∧ leaf = (.key name :: below.1, below.2) := by
  induction entries with
  | nil => simp [entryLeaves]
  | cons entry rest ih =>
    obtain ⟨name, item⟩ := entry
    rw [entryLeaves, List.mem_append, ih]
    constructor
    · intro membership
      rcases membership with member | ⟨name, item, below, present, member, rfl⟩
      · obtain ⟨below, inside, rfl⟩ := List.mem_map.mp member
        exact ⟨name, item, below, by simp, inside, rfl⟩
      · exact ⟨name, item, below, by simp [present], member, rfl⟩
    · intro membership
      obtain ⟨name, item, below, present, member, rfl⟩ := membership
      rcases List.mem_cons.mp present with same | present
      · cases same
        exact .inl (List.mem_map.mpr ⟨below, member, rfl⟩)
      · exact .inr ⟨name, item, below, present, member, rfl⟩

end Tree

namespace Value

/-- The leaves of a value in order, each behind its path; a leaf is its own one. -/
def leaves (value : Value) : List (Path × Value) := value.tree.leaves

/-- Whether there is nothing inside the value. -/
def isLeaf (value : Value) : Bool := value.items.isEmpty && value.fields.entries.isEmpty

theorem leaves_of_isLeaf {value : Value} (leaf : value.isLeaf = true) :
    value.leaves = [([], value)] := by
  obtain ⟨tree, ordered⟩ := value
  rw [isLeaf, Bool.and_eq_true] at leaf
  cases tree with
  | null | boolean | integer | float | string => rfl
  | array items =>
    obtain rfl : items = [] := by simpa [Value.items, items?, view] using leaf.1
    rfl
  | object entries =>
    obtain rfl : entries = [] := by simpa [Value.fields, fields?, view] using leaf.2
    rfl

theorem mem_leaves_array {items : List Value} (nonempty : items ≠ []) :
    leaf ∈ (array items).leaves ↔ ∃ i item below, items[i]? = some item ∧
      below ∈ item.leaves ∧ leaf = (.position (.ofNat i) :: below.1, below.2) := by
  have split : (array items).leaves = Tree.itemLeaves 0 (items.map tree) := by
    simp [leaves, array, Tree.leaves, nonempty]
  rw [split, Tree.mem_itemLeaves]
  constructor
  · intro membership
    obtain ⟨i, _, below, found, member, rfl⟩ := membership
    rw [List.getElem?_map, Option.map_eq_some_iff] at found
    obtain ⟨item, found, rfl⟩ := found
    exact ⟨i, item, below, found, member, by rw [Nat.zero_add]⟩
  · intro membership
    obtain ⟨i, item, below, found, member, rfl⟩ := membership
    refine ⟨i, item.tree, below, ?_, member, by rw [Nat.zero_add]⟩
    rw [List.getElem?_map, found, Option.map_some]

theorem mem_leaves_object {fields : Fields Value} (nonempty : fields.entries ≠ []) :
    leaf ∈ (object fields).leaves ↔ ∃ name item below, fields.get? name = some item ∧
      below ∈ item.leaves ∧ leaf = (.key name :: below.1, below.2) := by
  have split : (object fields).leaves = Tree.entryLeaves (fields.map tree).entries := by
    simp [leaves, object, Tree.leaves, Fields.map, nonempty]
  rw [split, Tree.mem_entryLeaves]
  constructor
  · intro membership
    obtain ⟨name, _, below, found, member, rfl⟩ := membership
    rw [Fields.mem_entries_iff, Fields.get?_map, Option.map_eq_some_iff] at found
    obtain ⟨item, found, rfl⟩ := found
    exact ⟨name, item, below, found, member, rfl⟩
  · intro membership
    obtain ⟨name, item, below, found, member, rfl⟩ := membership
    refine ⟨name, item.tree, below, ?_, member, rfl⟩
    rw [Fields.mem_entries_iff, Fields.get?_map, found, Option.map_some]

/-- A value has a leaf at a path. -/
inductive Leaf : Value → Path → Value → Prop where
  | here (leaf : value.isLeaf = true) : Leaf value [] value
  | entry {fields : Fields Value} (found : fields.get? name = some item)
      (below : Leaf item path leaf) :
      Leaf (object fields) (.key name :: path) leaf
  | element {items : List Value} {index : UInt64} (found : items[index.toNat]? = some item)
      (below : Leaf item path leaf) :
      Leaf (array items) (.position index :: path) leaf

/-- Values whose leaves have paths that can be written and followed. -/
inductive Addressable : Value → Prop where
  | scalar {value : Value} (scalar : value.isContainer = false) : Addressable value
  | array {items : List Value} (short : items.length ≤ maxPosition.toNat + 1)
      (each : ∀ item ∈ items, Addressable item) :
      Addressable (array items)
  | object {fields : Fields Value}
      (named : ∀ name item, fields.get? name = some item → (Step.key name).Nameable)
      (each : ∀ name item, fields.get? name = some item → Addressable item) :
      Addressable (object fields)

theorem isLeaf_of_scalar {value : Value} (scalar : value.isContainer = false) :
    value.isLeaf = true := by
  obtain ⟨tree, ordered⟩ := value
  cases tree with
  | null | boolean | integer | float | string => rfl
  | array => cases scalar
  | object => cases scalar

theorem isLeaf_array {items : List Value} : (array items).isLeaf = true ↔ items = [] := by
  simp [isLeaf, items_array, fields_array, Fields.empty]

theorem isLeaf_object {fields : Fields Value} :
    (object fields).isLeaf = true ↔ fields.entries = [] := by
  simp [isLeaf, items_object, fields_object]

theorem exists_leaf (value : Value) : ∃ path leaf, value.Leaf path leaf := by
  induction value using induct with
  | scalar value scalar => exact ⟨[], value, .here (isLeaf_of_scalar scalar)⟩
  | array items ih =>
    cases items with
    | nil => exact ⟨[], _, .here (isLeaf_array.mpr rfl)⟩
    | cons item rest =>
      obtain ⟨path, leaf, below⟩ := ih item (by simp)
      exact ⟨.position 0 :: path, leaf, .element rfl below⟩
  | object fields ih =>
    cases entries : fields.entries with
    | nil => exact ⟨[], _, .here (isLeaf_object.mpr entries)⟩
    | cons entry rest =>
      have found : fields.get? entry.1 = some entry.2 :=
        Fields.mem_entries_iff.mp (by simp [entries])
      obtain ⟨path, leaf, below⟩ := ih _ _ found
      exact ⟨.key entry.1 :: path, leaf, .entry found below⟩

theorem leaf_of_isLeaf_iff {value : Value} (childless : value.isLeaf = true) :
    value.Leaf path leaf ↔ path = [] ∧ leaf = value := by
  constructor
  · intro below
    cases below with
    | here => exact ⟨rfl, rfl⟩
    | entry found =>
      have present := Fields.mem_entries_iff.mpr found
      simp [isLeaf_object.mp childless] at present
    | element found => simp [isLeaf_array.mp childless] at found
  · intro membership
    obtain ⟨rfl, rfl⟩ := membership
    exact .here childless

theorem leaf_array_iff {items : List Value} (nonempty : items ≠ []) :
    (array items).Leaf path leaf ↔ ∃ index item below, items[UInt64.toNat index]? = some item ∧
      item.Leaf below leaf ∧ path = .position index :: below := by
  constructor
  · generalize same : array items = value
    intro below
    cases below with
    | here childless => exact absurd (isLeaf_array.mp (same ▸ childless)) nonempty
    | entry => exact absurd same array_ne_object
    | element found below =>
      obtain rfl := array_inj.mp same
      exact ⟨_, _, _, found, below, rfl⟩
  · intro membership
    obtain ⟨index, item, below, found, inside, rfl⟩ := membership
    exact .element found inside

theorem leaf_object_iff {fields : Fields Value} (nonempty : fields.entries ≠ []) :
    (object fields).Leaf path leaf ↔ ∃ name item below, fields.get? name = some item ∧
      item.Leaf below leaf ∧ path = .key name :: below := by
  constructor
  · generalize same : object fields = value
    intro below
    cases below with
    | here childless => exact absurd (isLeaf_object.mp (same ▸ childless)) nonempty
    | element => exact absurd same.symm array_ne_object
    | entry found below =>
      obtain rfl := object_inj.mp same
      exact ⟨_, _, _, found, below, rfl⟩
  · intro membership
    obtain ⟨name, item, below, found, inside, rfl⟩ := membership
    exact .entry found inside

theorem toNat_ofNat_of_short {items : List Value} (short : items.length ≤ maxPosition.toNat + 1)
    (found : items[i]? = some item) : (UInt64.ofNat i).toNat = i := by
  obtain ⟨inside, -⟩ := List.getElem?_eq_some_iff.mp found
  have bound : maxPosition.toNat + 1 < UInt64.size := by decide
  exact UInt64.toNat_ofNat_of_lt' (by omega)

theorem mem_leaves_iff_of_isLeaf {value : Value} (childless : value.isLeaf = true) :
    (path, leaf) ∈ value.leaves ↔ value.Leaf path leaf := by
  rw [leaves_of_isLeaf childless, leaf_of_isLeaf_iff childless]
  simp

/-- The leaves that are listed are all leaves. -/
theorem mem_leaves_iff {value : Value} (addressable : value.Addressable) :
    (path, leaf) ∈ value.leaves ↔ value.Leaf path leaf := by
  induction addressable generalizing path leaf with
  | scalar scalar => exact mem_leaves_iff_of_isLeaf (isLeaf_of_scalar scalar)
  | @array items short each ih =>
    by_cases childless : items = []
    · exact mem_leaves_iff_of_isLeaf (isLeaf_array.mpr childless)
    rw [mem_leaves_array childless, leaf_array_iff childless]
    constructor
    · intro membership
      obtain ⟨i, item, below, found, member, same⟩ := membership
      cases same
      refine ⟨.ofNat i, item, _, ?_, (ih item (List.mem_of_getElem? found)).mp member, rfl⟩
      rwa [toNat_ofNat_of_short short found]
    · intro membership
      obtain ⟨index, item, below, found, inside, rfl⟩ := membership
      refine ⟨index.toNat, item, (below, leaf), found, ?_, by rw [UInt64.ofNat_toNat]⟩
      exact (ih item (List.mem_of_getElem? found)).mpr inside
  | @object fields named each ih =>
    by_cases childless : fields.entries = []
    · exact mem_leaves_iff_of_isLeaf (isLeaf_object.mpr childless)
    rw [mem_leaves_object childless, leaf_object_iff childless]
    constructor
    · intro membership
      obtain ⟨name, item, below, found, member, same⟩ := membership
      cases same
      exact ⟨name, item, _, found, (ih name item found).mp member, rfl⟩
    · intro membership
      obtain ⟨name, item, below, found, inside, rfl⟩ := membership
      exact ⟨name, item, (below, leaf), found, (ih name item found).mpr inside, rfl⟩

theorem Addressable.of_array {items : List Value} (addressable : (Value.array items).Addressable) :
    items.length ≤ maxPosition.toNat + 1 ∧ ∀ item ∈ items, item.Addressable := by
  generalize same : Value.array items = value at addressable
  cases addressable with
  | scalar scalar => simp [← same, isContainer, kind_array] at scalar
  | array short each =>
    obtain rfl := array_inj.mp same
    exact ⟨short, each⟩
  | object => exact absurd same array_ne_object

theorem Addressable.of_object {fields : Fields Value}
    (addressable : (Value.object fields).Addressable)
    (found : fields.get? name = some item) : (Step.key name).Nameable ∧ item.Addressable := by
  generalize same : Value.object fields = value at addressable
  cases addressable with
  | scalar scalar => simp [← same, isContainer, kind_object] at scalar
  | array => exact absurd same.symm array_ne_object
  | object named each =>
    obtain rfl := object_inj.mp same
    exact ⟨named _ _ found, each _ _ found⟩

/-- The paths of leaves have a text that denotes them. -/
theorem Leaf.nameable {value : Value} (below : value.Leaf path leaf)
    (addressable : value.Addressable) :
    ∀ step ∈ path, step.Nameable := by
  induction below with
  | here => exact fun _ absent => nomatch absent
  | entry found _ ih =>
    obtain ⟨named, inside⟩ := addressable.of_object found
    exact List.forall_mem_cons.mpr ⟨named, ih inside⟩
  | element found _ ih =>
    have inside := addressable.of_array.2 _ (List.mem_of_getElem? found)
    exact List.forall_mem_cons.mpr ⟨trivial, ih inside⟩

/-- The positions on the way to a leaf are not too large. -/
theorem Leaf.beyond?_eq_none {value : Value} (below : value.Leaf path leaf)
    (addressable : value.Addressable) : Edit.beyond? path = none := by
  induction below with
  | here => rfl
  | entry found _ ih => exact ih (addressable.of_object found).2
  | @element _ _ _ items index found _ ih =>
    obtain ⟨short, each⟩ := addressable.of_array
    obtain ⟨inside, -⟩ := List.getElem?_eq_some_iff.mp found
    have fits : ¬ maxPosition < index := fun beyond => by
      have larger := UInt64.lt_iff_toNat_lt.mp beyond
      omega
    rw [Edit.beyond?, if_neg fits]
    exact ih (each _ (List.mem_of_getElem? found))

end Value
end PathEdit
