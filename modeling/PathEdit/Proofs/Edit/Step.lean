import PathEdit.Proofs.Edit.Root

/-! One step of a path: what it leads to, and what an edit does there. An edit through a longer path
is one through its first step, of what the rest of the path makes of the value there. -/
namespace PathEdit

namespace Fields

variable {fields : Fields α} {name : String}

theorem erase_of_get? (absent : fields.get? name = none) : fields.erase name = fields := by
  refine ext_get? fun other => ?_
  rw [get?_erase]
  split
  · rename_i same
    rw [same, absent]
  · rfl

theorem modify_of_get? (absent : fields.get? name = none) (f : α → α) :
    fields.modify name f = fields := by
  refine ext_get? fun other => ?_
  rw [get?_modify]
  split
  · rename_i same
    rw [same, absent]
    rfl
  · rfl

theorem modify_eq_insert {a : α} (found : fields.get? name = some a) (f : α → α) :
    fields.modify name f = fields.insert name (f a) := by
  refine ext_get? fun other => ?_
  rw [get?_modify, get?_insert]
  split
  · rename_i same
    rw [same, found, Option.map_some]
  · rfl

end Fields

namespace Value

variable {value item : Value} {f g : Value → Value} {p q : Path} {step other : Step}

/-- The value one step further down. -/
def child? : Step → Value → Option Value
  | .key name, value => value.get? name
  | .position index, value => value.at? index.toNat
  | .wildcard, _ => none

theorem follow?_cons (step : Step) (path : Path) (value : Value) :
    value.follow? (step :: path) = (value.child? step).bind (follow? path) := by
  cases step <;> rfl

theorem exists_child (found : value.follow? (step :: p) = some item) :
    ∃ child, value.child? step = some child ∧ child.follow? p = some item := by
  rw [follow?_cons] at found
  exact Option.bind_eq_some_iff.mp found

theorem write_cons (f : Value → Value) (step : Step) (path : Path) :
    write f (step :: path) = write (write f path) [step] := by
  cases step <;> rfl

/-- There is something further down only in the container that a step leads into. -/
theorem kind_of_child? (there : value.child? step = some item) : value.kind = step.container := by
  cases step with
  | wildcard => cases there
  | key name => exact kind_of_get? there
  | position index => exact kind_of_mem (List.mem_of_getElem? there)

theorem child?_of_misfit (misfit : value.kind ≠ step.container) : value.child? step = none := by
  cases there : value.child? step with
  | none => rfl
  | some item => exact absurd (kind_of_child? there) misfit

/-- A write one step down, at a place that it makes if it must. -/
theorem child?_write (exact : step ≠ .wildcard) (f : Value → Value) (value : Value) :
    (value.write f [step]).child? step = some (f ((value.child? step).getD null)) := by
  cases step with
  | wildcard => exact absurd rfl exact
  | key name =>
    simp only [child?, get?, write, fields_object, Fields.get?_insert, if_true]
  | position index =>
    simp only [child?, at?, write, items_array, List.getElem?_modify_eq,
      getElem?_padded_of_lt _ (Nat.lt_succ_self _), Option.map_eq_map, Option.map_some]

theorem child?_write_same (there : value.child? step = some item) (f : Value → Value) :
    (value.write f [step]).child? step = some (f item) := by
  have exact : step ≠ .wildcard := by
    rintro rfl
    cases there
  rw [child?_write exact, there, Option.getD_some]

/-- A write one step down changes nothing that another step leads to, if it makes nothing. -/
theorem child?_write_other (there : value.child? step = some item) (different : step ≠ other)
    (f : Value → Value) : (value.write f [step]).child? other = value.child? other := by
  by_cases alike : other.container = step.container
  · cases step with
    | wildcard => cases there
    | key name =>
      cases other with
      | position | wildcard => cases alike
      | key other =>
        have apart : other ≠ name := fun same => different (congrArg Step.key same.symm)
        simp only [child?, get?, write, fields_object, Fields.get?_insert, if_neg apart]
    | position index =>
      cases other with
      | key => cases alike
      | wildcard => rfl
      | position other =>
        have apart : index.toNat ≠ other.toNat := fun same =>
          different (congrArg Step.position (UInt64.toNat_inj.mp same))
        obtain ⟨inside, -⟩ := List.getElem?_eq_some_iff.mp there
        simp only [child?, at?, write, items_array, padded_of_length_le inside,
          List.getElem?_modify_ne _ _ apart]
  -- a step into the other kind of container leads nowhere, before the write and after it
  · have before : value.kind ≠ other.container := fun same =>
      alike (same.symm.trans (kind_of_child? there))
    have later : (value.write f [step]).kind ≠ other.container := fun same =>
      alike (same.symm.trans (kind_write f step [] value))
    rw [child?_of_misfit before, child?_of_misfit later]

theorem write_step_congr (there : value.child? step = some item) (same : f item = g item) :
    value.write f [step] = value.write g [step] := by
  cases step with
  | wildcard => cases there
  | key name =>
    rw [child?, get?] at there
    simp only [write, there, Option.getD_some, same]
  | position index =>
    -- the element is there, so that nothing is padded
    obtain ⟨inside, rfl⟩ := List.getElem?_eq_some_iff.mp there
    rw [write, write, padded_of_length_le inside]
    refine congrArg array (List.ext_getElem (by simp) fun i _ _ => ?_)
    rw [List.getElem_modify, List.getElem_modify]
    split
    · rename_i here
      subst here
      exact same
    · rfl

/-- Nothing changes where a value one step down is written over itself. -/
theorem write_of_child? (there : value.child? step = some item) (same : f item = item) :
    value.write f [step] = value := by
  rw [write_step_congr there (show f item = id item from same)]
  cases step with
  | wildcard => cases there
  | key name =>
    have found : value.fields.get? name = some item := there
    rw [write, found, Option.getD_some]
    have still := congrArg object (Fields.insert_of_get? found)
    exact still.trans (object_fields (kind_of_child? there))
  | position index =>
    obtain ⟨inside, -⟩ := List.getElem?_eq_some_iff.mp there
    rw [write, padded_of_length_le inside]
    have still := congrArg array (List.modify_id index.toNat value.items)
    exact still.trans (array_items (kind_of_child? there))

/-- Changes what a step leads to, where there is something. -/
def mapStep (f : Value → Value) : Step → Value → Value
  | .key name, value => value.mapFields (·.modify name f)
  | .position index, value => value.mapItems (·.modify index.toNat f)
  | .wildcard, value => value.mapItems (·.map f)

/-- A removal further down changes what its first step leads to, if that is there. -/
theorem remove_cons (steps : q ≠ []) (step : Step) (value : Value) :
    value.remove (step :: q) = value.mapStep (remove q) step := by
  obtain ⟨next, q, rfl⟩ := List.exists_cons_of_ne_nil steps
  cases step <;> rfl

theorem mapFields_of_kind (fits : value.kind = .object) (change : Fields Value → Fields Value) :
    value.mapFields change = object (change value.fields) := by
  rw [← object_fields fits, mapFields_object, fields_object]

theorem mapItems_of_kind (fits : value.kind = .array) (change : List Value → List Value) :
    value.mapItems change = array (change value.items) := by
  rw [← array_items fits, mapItems_array, items_array]

/-- A removal further down changes what its first step leads to. -/
theorem remove_step (there : value.child? step = some item) (steps : q ≠ []) :
    value.remove (step :: q) = value.write (remove q) [step] := by
  obtain ⟨next, q, rfl⟩ := List.exists_cons_of_ne_nil steps
  cases step with
  | wildcard => cases there
  | key name =>
    have fits := kind_of_child? there
    rw [child?, get?] at there
    rw [write, there, Option.getD_some]
    exact (mapFields_of_kind fits _).trans (congrArg object (Fields.modify_eq_insert there _))
  | position index =>
    obtain ⟨inside, -⟩ := List.getElem?_eq_some_iff.mp there
    rw [write, padded_of_length_le inside]
    exact mapItems_of_kind (kind_of_child? there) _

/-- A removal does nothing where its first step leads to nothing. -/
theorem remove_of_child? (exact : step ≠ .wildcard) (absent : value.child? step = none)
    (path : Path) : value.remove (step :: path) = value := by
  by_cases fits : value.kind = step.container
  · cases step with
    | wildcard => exact absurd rfl exact
    | key name =>
      have missing : value.fields.get? name = none := absent
      have still : value.remove (.key name :: path) = object value.fields := by
        cases path with
        | nil =>
          exact (mapFields_of_kind fits _).trans (congrArg object (Fields.erase_of_get? missing))
        | cons =>
          exact (mapFields_of_kind fits _).trans (congrArg object (Fields.modify_of_get? missing _))
      exact still.trans (object_fields fits)
    | position index =>
      have beyond : value.items.length ≤ index.toNat := List.getElem?_eq_none_iff.mp absent
      have still : value.remove (.position index :: path) = array value.items := by
        cases path with
        | nil =>
          exact (mapItems_of_kind fits _).trans (congrArg array (List.eraseIdx_of_length_le beyond))
        | cons =>
          exact (mapItems_of_kind fits _).trans (congrArg array (List.modify_eq_self beyond))
      exact still.trans (array_items fits)
  · exact remove_of_misfit fits path

end Value
end PathEdit
