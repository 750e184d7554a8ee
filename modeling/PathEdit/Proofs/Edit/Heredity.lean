import PathEdit.Proofs.Edit.Writing

/-! Properties that a value has when everything in it has them and its arrays are not too long. An
edit keeps such a property, if what its operation makes of the values that it is given has it. -/
namespace PathEdit

namespace Value

/-- The values that a write at a path is given, in order; a null where there is none. -/
def reached : Path → Value → List Value
  | [], value => [value]
  | .key name :: path, value => reached path ((value.get? name).getD null)
  | .position index :: path, value => reached path ((value.at? index.toNat).getD null)
  | .wildcard :: path, value => value.items.flatMap (reached path)

end Value

open Value

/-- A property of scalars that a container has if what is in it has it, and if the length is allowed
in the case of an array. -/
structure Hereditary (allowed : Nat → Prop) (holds : Value → Prop) : Prop where
  zero : allowed 0
  shorter {m n : Nat} : m ≤ n → allowed n → allowed m
  null : holds null
  object_iff {fields : Fields Value} :
    holds (object fields) ↔ ∀ name item, fields.get? name = some item → holds item
  array_iff {items : List Value} :
    holds (array items) ↔ allowed items.length ∧ ∀ item ∈ items, holds item

namespace Hereditary

variable {allowed : Nat → Prop} {holds : Value → Prop} {value item : Value} {f : Value → Value}
  {path : Path}

theorem entry (here : Hereditary allowed holds) (whole : holds value) {name : String}
    (found : value.get? name = some item) : holds item := by
  rw [← object_fields (kind_of_get? found)] at whole
  exact here.object_iff.mp whole name item found

theorem element (here : Hereditary allowed holds) (whole : holds value)
    (member : item ∈ value.items) : holds item := by
  rw [← array_items (kind_of_mem member)] at whole
  exact (here.array_iff.mp whole).2 item member

theorem length_items (here : Hereditary allowed holds) (whole : holds value) :
    allowed value.items.length := by
  by_cases fits : value.kind = .array
  · rw [← array_items fits] at whole
    exact (here.array_iff.mp whole).1
  · rw [items_of_kind_ne fits]
    exact here.zero

/-- What a step leads to, or the null in its place. -/
theorem slot (here : Hereditary allowed holds) {found : Option Value}
    (each : ∀ item, found = some item → holds item) : holds (found.getD Value.null) := by
  cases found with
  | none => exact here.null
  | some item => exact each item rfl

theorem padded (here : Hereditary allowed holds) (whole : holds value) (length : Nat) :
    ∀ item ∈ padded value.items length, holds item := by
  intro item member
  rcases List.mem_append.mp member with old | padding
  · exact here.element whole old
  · rw [List.eq_of_mem_replicate padding]
    exact here.null

/-- A write keeps the property, if what it puts in the place of a value with the property has it,
for the values that it is given. -/
theorem write (here : Hereditary allowed holds)
    (room : ∀ index, .position index ∈ path → allowed (index.toNat + 1)) (whole : holds value)
    (made : ∀ old ∈ value.reached path, holds old → holds (f old)) :
    holds (value.write f path) := by
  induction path generalizing value with
  | nil => exact made value (List.mem_singleton_self value) whole
  | cons step path ih =>
    have further (index : UInt64) (member : .position index ∈ path) : allowed (index.toNat + 1) :=
      room index (List.mem_cons_of_mem _ member)
    cases step with
    | key name =>
      refine here.object_iff.mpr fun other item found => ?_
      rw [Fields.get?_insert] at found
      split at found
      · obtain rfl := Option.some.inj found
        exact ih further (here.slot fun item => here.entry whole) made
      · exact here.entry whole found
    | position index =>
      refine here.array_iff.mpr ⟨?_, fun item member => ?_⟩
      · rw [List.length_modify, length_padded]
        rcases Nat.le_total value.items.length (index.toNat + 1) with short | long
        · rw [Nat.max_eq_right short]
          exact room index List.mem_cons_self
        · rw [Nat.max_eq_left long]
          exact here.length_items whole
      · obtain ⟨i, inside, rfl⟩ := List.mem_iff_getElem.mp member
        rw [List.getElem_modify]
        split
        · rename_i at_index
          subst at_index
          obtain ⟨_, child⟩ := List.getElem_of_getElem?
            (getElem?_padded_of_lt value.items (Nat.lt_succ_self index.toNat))
          rw [child]
          exact ih further (here.slot fun item found =>
            here.element whole (List.mem_of_getElem? found)) made
        · exact here.padded whole _ _ (List.getElem_mem _)
    | wildcard =>
      refine here.array_iff.mpr ⟨?_, fun item member => ?_⟩
      · rw [List.length_map]
        exact here.length_items whole
      · obtain ⟨old, there, rfl⟩ := List.mem_map.mp member
        exact ih further (here.element whole there) fun last among =>
          made last (List.mem_flatMap.mpr ⟨old, there, among⟩)

theorem mapFields (here : Hereditary allowed holds) (whole : holds value)
    {change : Fields Value → Fields Value} (each : ∀ name item,
      (change value.fields).get? name = some item → holds item) :
    holds (value.mapFields change) := by
  by_cases fits : value.kind = .object
  · rw [mapFields_of_kind fits]
    exact here.object_iff.mpr each
  · rwa [mapFields_of_kind_ne fits]

theorem mapItems (here : Hereditary allowed holds) (whole : holds value)
    {change : List Value → List Value} (shorter : (change value.items).length ≤ value.items.length)
    (each : ∀ item ∈ change value.items, holds item) : holds (value.mapItems change) := by
  by_cases fits : value.kind = .array
  · rw [mapItems_of_kind fits]
    exact here.array_iff.mpr ⟨here.shorter shorter (here.length_items whole), each⟩
  · rwa [mapItems_of_kind_ne fits]

theorem mapStep (here : Hereditary allowed holds) (whole : holds value)
    (each : ∀ value, holds value → holds (f value)) (step : Step) :
    holds (value.mapStep f step) := by
  cases step with
  | key name =>
    refine here.mapFields whole fun other item found => ?_
    rw [Fields.get?_modify] at found
    split at found
    · obtain ⟨old, there, rfl⟩ := Option.map_eq_some_iff.mp found
      exact each old (here.entry whole there)
    · exact here.entry whole found
  | position index =>
    refine here.mapItems whole (by simp) fun item member => ?_
    obtain ⟨i, inside, rfl⟩ := List.mem_iff_getElem.mp member
    rw [List.getElem_modify]
    have old := here.element whole (List.getElem_mem (by simpa using inside))
    split
    · exact each _ old
    · exact old
  | wildcard =>
    refine here.mapItems whole (by simp) fun item member => ?_
    obtain ⟨old, there, rfl⟩ := List.mem_map.mp member
    exact each old (here.element whole there)

theorem remove_last (here : Hereditary allowed holds) (whole : holds value) (last : Step) :
    holds (value.remove [last]) := by
  cases last with
  | key name =>
    refine here.mapFields whole fun other item found => ?_
    rw [Fields.get?_erase] at found
    split at found
    · cases found
    · exact here.entry whole found
  | position index =>
    exact here.mapItems whole (List.eraseIdx_sublist _ _).length_le fun item member =>
      here.element whole (List.mem_of_mem_eraseIdx member)
  | wildcard => exact here.mapItems whole (Nat.zero_le _) fun _ => nofun

theorem remove (here : Hereditary allowed holds) (whole : holds value) (path : Path) :
    holds (value.remove path) := by
  induction path generalizing value with
  | nil => exact whole
  | cons step path ih =>
    by_cases last : path = []
    · subst last
      exact here.remove_last whole step
    · rw [remove_cons last]
      exact here.mapStep whole (fun value whole => ih whole) step

theorem emptied (here : Hereditary allowed holds) (value : Value) : holds value.emptied := by
  rw [Value.emptied]
  split
  · exact here.array_iff.mpr ⟨here.zero, fun _ => nofun⟩
  · exact here.object_iff.mpr fun _ _ => nofun

end Hereditary

namespace Edit

variable {edit : Edit} {root after : Value}

/-- The values that the operation of an edit is given: the root, or what its path leads to if that
fits. -/
def given (edit : Edit) (root : Value) : List Value :=
  match edit.path with
  | [] => [root]
  | path => if misfit? path root = none then root.reached path else []

theorem given_of_fits (fits : misfit? edit.path root = none) :
    edit.given root = root.reached edit.path := by
  obtain ⟨path, operation⟩ := edit
  cases path with
  | nil => rfl
  | cons => exact if_pos fits

end Edit

/-- An edit keeps a property of the root that is handed down, if what it makes of the values that it
is given has the property. -/
theorem Hereditary.run {edit : Edit} {root after : Value} {allowed : Nat → Prop}
    {holds : Value → Prop} (here : Hereditary allowed holds)
    (room : ∀ index ≤ maxPosition, allowed (index.toNat + 1)) (whole : holds root)
    (made : ∀ old ∈ edit.given root, holds old → holds (edit.operation.produce old))
    (outcome : edit.run root = .ok after) : holds after := by
  obtain ⟨path, operation⟩ := edit
  cases path with
  | nil =>
    obtain ⟨rfl, -⟩ := Edit.run_replacing operation outcome
    cases operation with
    | unset => exact here.emptied root
    | set | apply => exact made root (List.mem_singleton_self root) whole
  | cons step path =>
    have steps : step :: path ≠ [] := List.cons_ne_nil _ _
    rw [Edit.run_of_steps steps] at outcome
    split at outcome
    · cases outcome
    · rename_i fits
      obtain rfl := Except.ok.inj outcome
      rw [Edit.given_of_fits fits] at made
      have inside := (Edit.misfit?_eq_none_iff.mp fits).1
      cases operation with
      | unset => exact here.remove whole _
      | set | apply =>
        exact here.write (fun index member => room index (inside index member)) whole made

end PathEdit
