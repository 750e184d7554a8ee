import PathEdit.Proofs.Edit.Nesting

/-! What a removal takes out. Where its path leads nowhere it changes nothing. Otherwise the
container that the last step leads into loses just what is there. The containers on the way to it
stay, however little is left in them, and so does everything else. -/
namespace PathEdit

namespace Value

variable {value item root : Value} {f : Value → Value} {p q path above : Path} {last : Step}

theorem remove_of_follow? (exact : .wildcard ∉ path) (absent : value.follow? path = none) :
    value.remove path = value := by
  induction path generalizing value with
  | nil => cases absent
  | cons step path ih =>
    have first : step ≠ .wildcard := fun same => exact (same ▸ List.mem_cons_self)
    have further : .wildcard ∉ path := fun later => exact (List.mem_cons_of_mem _ later)
    rw [follow?_cons] at absent
    cases there : value.child? step with
    | none => exact remove_of_child? first there path
    | some child =>
      rw [there, Option.bind_some] at absent
      have steps : path ≠ [] := by
        rintro rfl
        cases absent
      rw [remove_step there steps]
      exact write_of_child? there (ih further absent)

/-- A write at a path that leads somewhere changes nothing that is neither on it nor behind it. -/
theorem follow?_write_elsewhere (found : value.follow? p = some item) (behind : ¬ p <+: q)
    (before : ¬ q <+: p) (f : Value → Value) : (value.write f p).follow? q = value.follow? q := by
  induction p generalizing value q with
  | nil => exact absurd List.nil_prefix behind
  | cons step p ih =>
    cases q with
    | nil => exact absurd List.nil_prefix before
    | cons other q =>
      obtain ⟨child, there, below⟩ := exists_child found
      rw [write_cons, follow?_cons, follow?_cons]
      by_cases same : step = other
      · subst same
        rw [List.cons_prefix_cons] at behind before
        have apart : ¬ p <+: q := fun less => behind ⟨rfl, less⟩
        have apart' : ¬ q <+: p := fun less => before ⟨rfl, less⟩
        rw [child?_write_same there, there]
        exact ih below apart apart'
      · rw [child?_write_other there same]

/-- On the way to the place of a write that makes nothing every container keeps its kind. -/
theorem kind_of_follow?_write (found : value.follow? (p ++ q) = some item)
    (keeps : (f item).kind = item.kind) :
    ∃ old new, value.follow? p = some old ∧ (value.write f (p ++ q)).follow? p = some new ∧
      new.kind = old.kind := by
  rw [follow?_append] at found
  obtain ⟨old, there, below⟩ := Option.bind_eq_some_iff.mp found
  refine ⟨old, old.write f q, there, ?_, ?_⟩
  · rw [write_append, follow?_write _ (exact_of_follow? there), there, Option.getD_some]
  · cases q with
    | nil =>
      obtain rfl := Option.some.inj below
      exact keeps
    | cons step q => rw [kind_write, kind_of_follow? below]

theorem isContainer_of_follow? (found : value.follow? p = some item) (steps : p ≠ []) :
    value.isContainer = true := by
  obtain ⟨step, p, rfl⟩ := List.exists_cons_of_ne_nil steps
  rw [isContainer_iff, kind_of_follow? found, Step.container]
  split
  · exact .inl rfl
  · exact .inr rfl

/-- A container without what a step leads to: an object without the name, or an array in which the
later elements have moved up. -/
inductive Loses : Step → Value → Value → Prop
  | entry {fields left : Fields Value} (gone : left.get? name = none)
      (others : ∀ other, other ≠ name → left.get? other = fields.get? other) :
      Loses (.key name) (object fields) (object left)
  | element {index : UInt64} {items left : List Value}
      (before : ∀ i < index.toNat, left[i]? = items[i]?)
      (moved : ∀ i ≥ index.toNat, left[i]? = items[i + 1]?) :
      Loses (.position index) (array items) (array left)

theorem loses_remove (there : value.child? last = some item) :
    Loses last value (value.remove [last]) := by
  have fits := kind_of_child? there
  cases last with
  | wildcard => cases there
  | key name =>
    rw [remove, ← object_fields fits, mapFields_object]
    refine .entry ?_ fun other different => ?_
    · rw [Fields.get?_erase, if_pos rfl]
    · rw [Fields.get?_erase, if_neg different]
  | position index =>
    rw [remove, ← array_items fits, mapItems_array]
    exact .element (fun i before => List.getElem?_eraseIdx_of_lt before)
      fun i behind => List.getElem?_eraseIdx_of_ge behind

/-- What it is to take out of a root what the last step of a path leads to. The container that the
step leads into loses it, what is not on the path or behind it is found as before, and the
containers on the path stay containers of their kind. -/
structure Removed (above : Path) (last : Step) (root after : Value) : Prop where
  holder : ∃ old new, root.follow? above = some old ∧ after.follow? above = some new ∧
    Loses last old new
  elsewhere : ∀ other, ¬ above <+: other → ¬ other <+: above →
    after.follow? other = root.follow? other
  ancestors : ∀ path, path <+: above → ∃ old new, root.follow? path = some old ∧
    after.follow? path = some new ∧ old.isContainer = true ∧ new.kind = old.kind

theorem removed_remove (found : root.follow? (above ++ [last]) = some item) :
    Removed above last root (root.remove (above ++ [last])) := by
  obtain ⟨old, there, below⟩ := Option.bind_eq_some_iff.mp ((follow?_append _ _ _).symm.trans found)
  obtain ⟨child, inside, -⟩ := exists_child below
  rw [remove_append there (List.cons_ne_nil _ _)]
  constructor
  · refine ⟨old, old.remove [last], there, ?_, loses_remove inside⟩
    rw [follow?_write _ (exact_of_follow? there), there, Option.getD_some]
  · exact fun other behind before => follow?_write_elsewhere there behind before _
  · rintro path ⟨rest, rfl⟩
    obtain ⟨before, new, here, later, same⟩ := kind_of_follow?_write there (kind_remove [last] _)
    rw [List.append_assoc, follow?_append, here, Option.bind_some] at found
    exact ⟨before, new, here, later, isContainer_of_follow? found (by simp), same⟩

end Value

namespace Edit

variable {root : Value} {above : Path} {last : Step}

/-- A removal through a path without wildcards goes through when the path fits. It leaves the root
as it was if the path leads nowhere, and takes out what it leads to otherwise. -/
theorem run_unset (fits : ∀ step ∈ (above ++ [last]).head?, root.kind = step.container)
    (inside : ∀ index, .position index ∈ above ++ [last] → index ≤ maxPosition)
    (exact : .wildcard ∉ above ++ [last]) :
    ∃ after, run ⟨above ++ [last], .unset⟩ root = .ok after ∧
      (root.follow? (above ++ [last]) = none → after = root) ∧
      ∀ old, root.follow? (above ++ [last]) = some old → Value.Removed above last root after := by
  have steps : above ++ [last] ≠ [] := by simp
  have fit : misfit? (above ++ [last]) root = none := by
    obtain ⟨step, path, same⟩ := List.exists_cons_of_ne_nil steps
    rw [same] at fits inside ⊢
    exact misfit?_eq_none_iff.mpr ⟨inside, fits step rfl⟩
  refine ⟨root.remove (above ++ [last]), ?_, ?_, ?_⟩
  · rw [run_of_steps steps, fit]
    rfl
  · exact Value.remove_of_follow? exact
  · exact fun old found => Value.removed_remove found

/-- The only entry of an object in a list, which leaves an empty object there. -/
theorem run_unset_only :
    let item := Value.object (.ofList [("x", .null)])
    let root := Value.object (.ofList [("a", .array [item, .boolean true])])
    let after := Value.object (.ofList [("a", .array [.object .empty, .boolean true])])
    let above : Path := [.key "a", .position 0]
    let last : Step := .key "x"
    run ⟨above ++ [last], .unset⟩ root = .ok after ∧ Value.Removed above last root after := by
  intro item root after above last
  have inside : ∀ index, .position index ∈ above ++ [last] → index ≤ maxPosition := by
    intro index member
    obtain rfl : index = 0 := by simpa [above, last] using member
    decide
  have fits : ∀ step ∈ (above ++ [last]).head?, root.kind = step.container := by
    rintro step ⟨rfl⟩
    rfl
  obtain ⟨other, outcome, -, removed⟩ := run_unset fits inside (by decide)
  obtain rfl : after = other := Except.ok.inj (Eq.trans (by rfl) outcome)
  exact ⟨outcome, removed .null (by decide)⟩

end Edit
end PathEdit
