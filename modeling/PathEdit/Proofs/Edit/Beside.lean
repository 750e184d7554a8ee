import Mathlib.Data.List.Forall2
import PathEdit.Proofs.Edit.Exchange

/-! What a write leaves alone. Beside its path everything is found as before. Only the nulls that an
array is padded with are new, in front of the position that the write goes to. A container that the
write replaces is not of the kind that its path leads into, so nothing was found beside the path
there. -/
namespace PathEdit

/-- Whether a step of a path with wildcards leads, among others, where another step leads. -/
inductive Step.Covers : Step → Step → Prop
  | same (step : Step) : Covers step step
  | every (index : UInt64) : Covers wildcard (position index)

namespace Value

variable {shared taken path : Path} {s t : Step}

theorem follow?_null_of_steps (steps : path ≠ []) : null.follow? path = none := by
  obtain ⟨step, path, rfl⟩ := List.exists_cons_of_ne_nil steps
  cases step <;> rfl

/-- Padding leaves what is there, and puts nulls behind it. -/
theorem getElem?_padded_cases (items : List Value) (length i : Nat) :
    (padded items length)[i]? = items[i]? ∨
      items[i]? = none ∧ (padded items length)[i]? = some null ∧ i < length := by
  by_cases there : i < items.length
  · exact .inl (List.getElem?_append_left there)
  · have absent : items[i]? = none := List.getElem?_eq_none (Nat.le_of_not_lt there)
    by_cases inside : i < length
    · refine .inr ⟨absent, ?_, inside⟩
      rw [getElem?_padded_of_lt _ inside, absent, Option.getD_none]
    · have beyond : (padded items length).length ≤ i := by
        rw [length_padded]
        omega
      exact .inl ((List.getElem?_eq_none beyond).trans absent.symm)

/-- A write behind one step leaves what is behind another one, but for the nulls that pad an array. -/
theorem follow?_write_apart (apart : s.Apart t) (f : Value → Value) (p q : Path) (value : Value) :
    (value.write f (s :: p)).follow? (t :: q) = value.follow? (t :: q) ∨
      value.follow? (t :: q) = none ∧ (value.write f (s :: p)).follow? (t :: q) = some null ∧
        q = [] ∧ ∃ index other, t = .position index ∧ s = .position other ∧ index < other := by
  cases apart with
  | keys different =>
    refine .inl ?_
    simp only [follow?, write, get?, fields_object, Fields.get?_insert, if_neg (Ne.symm different)]
  | @positions other index different =>
    have elsewhere := mt UInt64.toNat_inj.mp different
    simp only [follow?, write, at?, items_array, List.getElem?_modify, if_neg elsewhere,
      Option.map_eq_map, Option.map_id_fun', id]
    rcases getElem?_padded_cases value.items (other.toNat + 1) index.toNat with
      still | ⟨absent, padding, inside⟩
    · exact .inl (congrArg (Option.bind · (follow? q)) still)
    · rw [absent, padding, Option.bind_none, Option.bind_some]
      by_cases last : q = []
      · subst last
        have below : index < other := UInt64.lt_iff_toNat_lt.mpr (by omega)
        exact .inr ⟨rfl, rfl, rfl, index, other, rfl, rfl, below⟩
      · exact .inl (follow?_null_of_steps last)

theorem follow?_write_beside (along : List.Forall₂ Step.Covers shared taken) (apart : s.Apart t)
    (f : Value → Value) (p q : Path) (value : Value) :
    (value.write f (shared ++ s :: p)).follow? (taken ++ t :: q) =
        value.follow? (taken ++ t :: q) ∨
      value.follow? (taken ++ t :: q) = none ∧
        (value.write f (shared ++ s :: p)).follow? (taken ++ t :: q) = some null ∧
        q = [] ∧ ∃ index other, t = .position index ∧ s = .position other ∧ index < other := by
  induction along generalizing value with
  | nil => exact follow?_write_apart apart f p q value
  | @cons step next shared taken covers along ih =>
    -- what is missing is made from a null, in which nothing is found
    have made := ih null
    have steps : taken ++ t :: q ≠ [] := by simp
    rw [follow?_null_of_steps steps] at made
    cases covers with
    | every index =>
      simp only [List.cons_append, follow?, write, at?, items_array, List.getElem?_map]
      cases value.items[index.toNat]? with
      | none => exact .inl rfl
      | some item => exact ih item
    | same =>
      by_cases exact : step = .wildcard
      · subst exact
        exact .inl rfl
      · rw [List.cons_append, List.cons_append, write_cons, follow?_cons, follow?_cons,
          child?_write exact, Option.bind_some]
        cases value.child? step with
        | none => exact made
        | some child => exact ih child

end Value

namespace Edit

variable {f : Operation} {shared taken p q : Path} {s t : Step} {root after : Value}

/-- A write changes nothing beside its path: what is found there before is found after it. Where
nothing is found before there is nothing after it, or a null that pads an array, at a position in
front of the one that the write goes to. -/
theorem follow?_run_beside (along : List.Forall₂ Step.Covers shared taken) (apart : s.Apart t)
    (writes : f.writes = true) (outcome : run ⟨shared ++ s :: p, f⟩ root = .ok after) :
    (∀ value, root.follow? (taken ++ t :: q) = some value →
      after.follow? (taken ++ t :: q) = some value) ∧
    (root.follow? (taken ++ t :: q) = none →
      after.follow? (taken ++ t :: q) = none ∨
        after.follow? (taken ++ t :: q) = some .null ∧
          q = [] ∧ ∃ index other, t = .position index ∧ s = .position other ∧ index < other) := by
  have steps : shared ++ s :: p ≠ [] := by simp
  rw [run_of_steps steps] at outcome
  obtain rfl : root.write f.produce (shared ++ s :: p) = after := by
    split at outcome
    · cases outcome
    · exact (Operation.onPath_of_writes writes _ _).symm.trans (Except.ok.inj outcome)
  rcases Value.follow?_write_beside along apart f.produce p q root with
    still | ⟨absent, padding, last, smaller⟩
  · exact ⟨fun value found => still.trans found, fun absent => .inl (still.trans absent)⟩
  · refine ⟨fun value found => ?_, fun _ => .inr ⟨padding, last, smaller⟩⟩
    rw [absent] at found
    cases found

/-- Every list in a list gets a third element: the first one stays, and a null stands between. -/
theorem follow?_run_beside_padded :
    let root := Value.object (.ofList [("a", .array [.array [.boolean true]])])
    let edit : Edit := ⟨[.key "a", .wildcard, .position 2], .set (.integer 1)⟩
    let first : Path := [.key "a", .position 0, .position 0]
    let second : Path := [.key "a", .position 0, .position 1]
    ∃ after, edit.run root = .ok after ∧
      root.follow? first = some (.boolean true) ∧ after.follow? first = some (.boolean true) ∧
      root.follow? second = none ∧ after.follow? second = some .null := by
  intro root edit first second
  have along : List.Forall₂ Step.Covers [.key "a", .wildcard] [.key "a", .position 0] :=
    .cons (.same _) (.cons (.every 0) .nil)
  have outcome : edit.run root = .ok (edit.operation.onPath edit.path root) := rfl
  have found : root.follow? first = some (.boolean true) := by decide
  have absent : root.follow? second = none := by decide
  have still := (follow?_run_beside along (.positions (by decide)) rfl outcome).1 _ found
  have padding := (follow?_run_beside along (.positions (by decide)) rfl outcome).2 absent
  exact ⟨_, outcome, found, still, absent, (padding.resolve_left (by decide)).1⟩

end Edit
end PathEdit
