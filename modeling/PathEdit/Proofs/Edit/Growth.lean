import PathEdit.Proofs.Value.Leaves

/-! How a value grows while the leaves of another one are written into it, in any order. -/
namespace PathEdit.Value

/-- What has grown out of nothing, or of an empty container, when the leaves at some paths are
written: nulls stand where nothing is written yet, and no container is larger than it must be. -/
inductive Grown : (done : Path → Prop) → (target value : Value) → Prop where
  | pending (nothing : ∀ path, ¬ done path) : Grown done target null
  | leaf (childless : target.isLeaf = true) : Grown done target target
  | array {items grown : List Value} (short : grown.length ≤ items.length)
      (missing : ∀ (index : UInt64) path, grown.length ≤ index.toNat →
        ¬ done (.position index :: path))
      (each : ∀ (index : UInt64) item, items[index.toNat]? = some item →
        Grown (fun path => done (.position index :: path)) item (grown[index.toNat]?.getD null)) :
      Grown done (array items) (array grown)
  | object {fields grown : Fields Value}
      (known : ∀ name, fields.get? name = none → grown.get? name = none)
      (missing : ∀ name path, grown.get? name = none → ¬ done (.key name :: path))
      (each : ∀ name item, fields.get? name = some item →
        Grown (fun path => done (.key name :: path)) item ((grown.get? name).getD null)) :
      Grown done (object fields) (object grown)

namespace Grown

variable {done : Path → Prop} {target value : Value}

theorem congr {others : Path → Prop} (grown : Grown done target value)
    (same : ∀ path, others path ↔ done path) : Grown others target value := by
  obtain rfl : others = done := funext fun path => propext (same path)
  exact grown

/-- What has grown of an object with entries. -/
theorem of_object {fields : Fields Value} (grown : Grown done (Value.object fields) value)
    (nonempty : fields.entries ≠ []) :
    (∀ name, fields.get? name = none → value.fields.get? name = none) ∧
      (∀ name path, value.fields.get? name = none → ¬ done (.key name :: path)) ∧
      ∀ name item, fields.get? name = some item →
        Grown (fun path => done (.key name :: path)) item ((value.fields.get? name).getD null) := by
  generalize same : Value.object fields = target at grown
  cases grown with
  | pending nothing =>
    exact ⟨fun _ _ => rfl, fun _ _ _ => nothing _, fun _ _ _ => .pending fun _ => nothing _⟩
  | leaf childless => exact absurd (isLeaf_object.mp (same ▸ childless)) nonempty
  | array => exact absurd same.symm array_ne_object
  | object known missing each =>
    obtain rfl := object_inj.mp same
    rw [fields_object]
    exact ⟨known, missing, each⟩

/-- What has grown of an array with elements. -/
theorem of_array {items : List Value} (grown : Grown done (Value.array items) value)
    (nonempty : items ≠ []) : value.items.length ≤ items.length ∧
      (∀ (index : UInt64) path, value.items.length ≤ index.toNat →
        ¬ done (.position index :: path)) ∧
      ∀ (index : UInt64) item, items[index.toNat]? = some item →
        Grown (fun path => done (.position index :: path)) item
          (value.items[index.toNat]?.getD null) := by
  generalize same : Value.array items = target at grown
  cases grown with
  | pending nothing =>
    exact ⟨Nat.zero_le _, fun _ _ _ => nothing _, fun _ _ _ => .pending fun _ => nothing _⟩
  | leaf childless => exact absurd (isLeaf_array.mp (same ▸ childless)) nonempty
  | object => exact absurd same array_ne_object
  | array short missing each =>
    obtain rfl := array_inj.mp same
    rw [items_array]
    exact ⟨short, missing, each⟩

theorem emptied (container : target.isContainer = true) :
    Grown (fun _ => False) target target.emptied := by
  induction target using induct with
  | scalar _ scalar => simp [scalar] at container
  | array items =>
    have empty : (Value.array items).emptied = Value.array [] := by simp [Value.emptied, kind_array]
    rw [empty]
    exact .array (Nat.zero_le _) (fun _ _ _ => not_false) fun _ _ _ => .pending fun _ => not_false
  | object fields =>
    have empty : (Value.object fields).emptied = Value.object .empty := by
      simp [Value.emptied, kind_object]
    rw [empty]
    exact .object (fun _ _ => rfl) (fun _ _ _ => not_false) fun _ _ _ => .pending fun _ => not_false

/-- One more leaf is written below an entry of an object. -/
theorem write_entry {fields : Fields Value} {name : String} {item leaf : Value} {path : Path}
    (grown : Grown done (Value.object fields) value) (found : fields.get? name = some item)
    (inside : ∀ {done : Path → Prop} {value : Value}, Grown done item value →
      Grown (fun other => done other ∨ other = path) item (value.write (fun _ => leaf) path)) :
    Grown (fun other => done other ∨ other = .key name :: path) (Value.object fields)
      (value.write (fun _ => leaf) (.key name :: path)) := by
  have nonempty : fields.entries ≠ [] := fun empty => by simp [Fields.get?, empty] at found
  obtain ⟨known, missing, each⟩ := grown.of_object nonempty
  rw [Value.write]
  refine .object (fun other absent => ?_) (fun other below absent => ?_)
    fun other target present => ?_
  · have different : other ≠ name := by
      intro equal
      subst equal
      simp [found] at absent
    rw [Fields.get?_insert, if_neg different, known other absent]
  · rw [Fields.get?_insert] at absent
    split at absent
    · cases absent
    · rename_i different
      intro reached
      rcases reached with old | new
      · exact missing other below absent old
      · cases new
        exact different rfl
  · rw [Fields.get?_insert]
    by_cases same : other = name
    · subst same
      obtain rfl := Option.some.inj (found.symm.trans present)
      rw [if_pos rfl, Option.getD_some]
      exact (inside (each other item found)).congr fun below => by simp
    · rw [if_neg same]
      exact (each other target present).congr fun below => by simp [same]

/-- One more leaf is written below an element of an array. -/
theorem write_element {items : List Value} {index : UInt64} {item leaf : Value} {path : Path}
    (grown : Grown done (Value.array items) value) (found : items[index.toNat]? = some item)
    (inside : ∀ {done : Path → Prop} {value : Value}, Grown done item value →
      Grown (fun other => done other ∨ other = path) item (value.write (fun _ => leaf) path)) :
    Grown (fun other => done other ∨ other = .position index :: path) (Value.array items)
      (value.write (fun _ => leaf) (.position index :: path)) := by
  have nonempty : items ≠ [] := by
    intro equal
    subst equal
    simp at found
  obtain ⟨short, missing, each⟩ := grown.of_array nonempty
  obtain ⟨fits, -⟩ := List.getElem?_eq_some_iff.mp found
  rw [Value.write]
  refine .array ?_ (fun other below beyond => ?_) fun other target present => ?_
  · simp only [List.length_modify, length_padded]
    omega
  · simp only [List.length_modify, length_padded] at beyond
    intro reached
    rcases reached with old | new
    · exact missing other below (by omega) old
    · cases new
      omega
  · rw [List.getElem?_modify]
    by_cases same : index = other
    · subst same
      obtain rfl := Option.some.inj (found.symm.trans present)
      rw [getElem?_padded_of_lt _ (Nat.lt_succ_self _)]
      simp only [if_true, Option.map_eq_map, Option.map_some, Option.getD_some]
      exact (inside (each index item found)).congr fun below => by simp
    · have different : index.toNat ≠ other.toNat := fun equal => same (UInt64.toNat_inj.mp equal)
      simp only [if_neg different, Option.map_eq_map, Option.map_id_fun', id, getElem?_padded]
      exact (each other target present).congr fun below => by simp [Ne.symm same]

/-- One more leaf is written. -/
theorem write {leaf : Value} (grown : Grown done target value) (below : target.Leaf path leaf) :
    Grown (fun other => done other ∨ other = path) target (value.write (fun _ => leaf) path) := by
  induction below generalizing done value with
  | here childless => exact .leaf childless
  | entry found _ ih => exact grown.write_entry found ih
  | element found _ ih => exact grown.write_element found ih

theorem eq_of_all (grown : Grown done target value) (addressable : target.Addressable)
    (all : ∀ path leaf, target.Leaf path leaf → done path) : value = target := by
  induction grown with
  | @pending _ target nothing =>
    obtain ⟨path, leaf, below⟩ := exists_leaf target
    exact absurd (all path leaf below) (nothing path)
  | leaf => rfl
  | @array _ items grown short missing each ih =>
    obtain ⟨fits, inside⟩ := addressable.of_array
    refine congrArg Value.array (List.ext_getElem? fun i => ?_)
    cases found : items[i]? with
    | none =>
      have beyond := List.getElem?_eq_none_iff.mp found
      exact List.getElem?_eq_none (by omega)
    | some item =>
      obtain ⟨index, rfl⟩ : ∃ index : UInt64, index.toNat = i :=
        ⟨.ofNat i, toNat_ofNat_of_short fits found⟩
      obtain ⟨path, leaf, below⟩ := exists_leaf item
      have written := all _ leaf (.element found below)
      have same := ih _ item found (inside item (List.mem_of_getElem? found)) fun path leaf below =>
        all _ leaf (.element found below)
      have present : index.toNat < grown.length := by
        by_contra beyond
        exact missing index path (Nat.le_of_not_lt beyond) written
      rw [List.getElem?_eq_getElem present] at same ⊢
      exact congrArg some same
  | @object _ fields grown known missing each ih =>
    refine congrArg Value.object (Fields.ext_get? fun name => ?_)
    cases found : fields.get? name with
    | none => exact known name found
    | some item =>
      obtain ⟨path, leaf, below⟩ := exists_leaf item
      have same := ih name item found (addressable.of_object found).2 fun path leaf below =>
        all _ leaf (.entry found below)
      cases there : grown.get? name with
      | none => exact absurd (all _ leaf (.entry found below)) (missing name path there)
      | some value => simpa [there] using same

end Grown
end PathEdit.Value
