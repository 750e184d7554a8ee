import PathEdit.Proofs.Edit.InPlace
import PathEdit.Proofs.Value.Size

/-! How long arrays grow. A position is at most the largest one, so that padding makes no array
longer than that allows; a longer one comes from what was there, or from what is written. -/
namespace PathEdit

/-- Having no array longer than a bound comes down to what is in a value. -/
theorem Value.longest_hereditary (bound : Nat) :
    Hereditary (· ≤ bound) fun value => value.longest ≤ bound where
  zero := Nat.zero_le bound
  shorter := Nat.le_trans
  null := Nat.zero_le bound
  object_iff := longest_object_le_iff
  array_iff := longest_array_le_iff

/-- The value that an operation sets. -/
def Operation.value? : Operation → Option Value
  | set value => some value
  | _ => none

namespace Edit

/-- The values that some edits set. -/
def settings (edits : List Edit) : List Value := edits.filterMap fun edit => edit.operation.value?

variable {edit : Edit} {root : Value} {bound : Nat}

/-- One edit makes no array longer than the largest position allows, unless it comes with what the
edit writes. -/
theorem longest_attempt (room : maxPosition.toNat + 1 ≤ bound) (whole : root.longest ≤ bound)
    (set : ∀ value ∈ edit.operation.value?, value.longest ≤ bound)
    (returned : ∀ value ∈ edit.operation.returned (edit.given root), value.longest ≤ bound) :
    (attempt root edit).longest ≤ bound := by
  cases outcome : edit.run root with
  | error =>
    rw [attempt, outcome]
    exact whole
  | ok after =>
    rw [attempt, outcome]
    refine (Value.longest_hereditary bound).run (fun index inside => ?_) whole
      (fun old given short => ?_) outcome
    · have := UInt64.le_iff_toNat_le.mp inside
      omega
    · cases operation : edit.operation with
      | set value => exact set value (by rw [operation]; rfl)
      | unset => exact short
      | apply f =>
        refine returned (f old) ?_
        rw [operation]
        exact List.mem_map_of_mem given

/-- Edits in place, one after the other, whatever they answer. -/
def carryOutInPlace : List Edit → Value → InPlace Value
  | [], root => return root
  | edit :: rest, root => do
    let (root, _) ← edit.inPlace root
    carryOutInPlace rest root

/-- What the transforms among some edits return, in the order of their calls. -/
def returned : List Edit → Value → List Value
  | [], _ => []
  | edit :: rest, root =>
    edit.operation.returned (edit.given root) ++ returned rest (attempt root edit)

/-- In place, edits take no element outside of an array. -/
theorem carryOutInPlace_run (edits : List Edit) (root : Value) (log : List Value) :
    (carryOutInPlace edits root).run log =
      some (carryOut edits root, log ++ returned edits root) := by
  induction edits generalizing root log with
  | nil => simp [carryOutInPlace, carryOut, returned]
  | cons edit rest ih =>
    have later : carryOut (edit :: rest) root = carryOut rest (attempt root edit) := rfl
    simp [carryOutInPlace, inPlace_run, ih, returned, later]

theorem longest_carryOut_le {edits : List Edit} (room : maxPosition.toNat + 1 ≤ bound)
    (whole : root.longest ≤ bound)
    (set : ∀ value ∈ settings edits, value.longest ≤ bound)
    (made : ∀ value ∈ returned edits root, value.longest ≤ bound) :
    (carryOut edits root).longest ≤ bound := by
  induction edits generalizing root with
  | nil => exact whole
  | cons edit rest ih =>
    obtain ⟨first, later⟩ := List.forall_mem_append.mp made
    have own : ∀ value ∈ edit.operation.value?, value.longest ≤ bound := fun value found =>
      set value (List.mem_filterMap.mpr ⟨edit, List.mem_cons_self, found⟩)
    refine ih (longest_attempt room whole own first) (fun value among => set value ?_) later
    obtain ⟨other, member, found⟩ := List.mem_filterMap.mp among
    exact List.mem_filterMap.mpr ⟨other, List.mem_cons_of_mem _ member, found⟩

/-- Edits one after the other, some of which may fail, take no element outside of an array. The
longest array that they leave is at most as long as the largest position allows, or as the longest
one in the root, in the values that are set and in those that transforms return. -/
theorem longest_carryOut (edits : List Edit) (root : Value) :
    ∃ returned, (carryOutInPlace edits root).run [] = some (carryOut edits root, returned) ∧
      let values := root :: (settings edits ++ returned)
      (carryOut edits root).longest ≤
        ((maxPosition.toNat + 1) :: values.map Value.longest).max (List.cons_ne_nil _ _) := by
  refine ⟨returned edits root, carryOutInPlace_run edits root [], ?_⟩
  intro values
  have short {value : Value} (among : value ∈ values) : value.longest ≤
      ((maxPosition.toNat + 1) :: values.map Value.longest).max (List.cons_ne_nil _ _) :=
    List.le_max_of_mem (List.mem_cons_of_mem _ (List.mem_map_of_mem among))
  refine longest_carryOut_le (List.le_max_of_mem List.mem_cons_self) (short List.mem_cons_self)
    (fun value set => short ?_) fun value made => short ?_
  · exact List.mem_cons_of_mem _ (List.mem_append_left _ set)
  · exact List.mem_cons_of_mem _ (List.mem_append_right _ made)

end Edit
end PathEdit
