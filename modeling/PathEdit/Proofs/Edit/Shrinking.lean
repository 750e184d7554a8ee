import Mathlib.Data.List.Forall2
import PathEdit.Proofs.Edit.Step
import PathEdit.Proofs.Value.Size

/-! What is left by a removal. It makes nothing, through wildcards or not, so that a root which it
changes at all has fewer values in it afterwards. A second removal at the same path finds nothing
more, unless it takes an element out of an array and finds the next one in its place. -/
namespace PathEdit

/-- The same again, or something smaller. -/
def Shrinks (size : α → Nat) (after before : α) : Prop := after = before ∨ size after < size before

namespace Shrinks

variable {size : α → Nat} {items others : List α}

instance : Std.Refl (Shrinks size) := ⟨fun _ => .inl rfl⟩

theorem le {after before : α} (shrinks : Shrinks size after before) : size after ≤ size before := by
  rcases shrinks with rfl | less
  · exact Nat.le_refl _
  · exact Nat.le_of_lt less

/-- Some elements of a list, each of them the same or smaller, are all elements as they were, or else
they are less in sum. -/
theorem sum (positive : ∀ a, 0 < size a)
    (each : List.SublistForall₂ (Shrinks size) others items) :
    Shrinks (fun items => (items.map size).sum) others items := by
  induction each with
  | @nil items =>
    cases items with
    | nil => exact .inl rfl
    | cons item rest => exact .inr (Nat.add_pos_left (positive item) _)
  | cons first _ ih =>
    rcases first with rfl | less
    · rcases ih with rfl | fewer
      · exact .inl rfl
      · exact .inr (Nat.add_lt_add_left fewer _)
    · exact .inr (Nat.add_lt_add_of_lt_of_le less ih.le)
  | cons_right _ ih =>
    exact .inr (Nat.lt_of_le_of_lt ih.le (Nat.lt_add_of_pos_left (positive _)))

theorem sum_of_sublist (positive : ∀ a, 0 < size a) (fewer : others.Sublist items) :
    Shrinks (fun items => (items.map size).sum) others items :=
  sum positive fewer.sublistForall₂

theorem sum_of_forall₂ (positive : ∀ a, 0 < size a)
    (each : List.Forall₂ (Shrinks size) others items) :
    Shrinks (fun items => (items.map size).sum) others items :=
  sum positive (List.sublistForall₂_iff.mpr ⟨items, each, .refl items⟩)

end Shrinks

namespace Value

variable {items others : List Value} {f g : Value → Value} {path : Path}

theorem shrinks_array (shrinks : Shrinks (fun items => (items.map nodes).sum) others items) :
    Shrinks nodes (array others) (array items) := by
  rcases shrinks with rfl | less
  · exact .inl rfl
  · right
    rw [nodes_array, nodes_array]
    exact Nat.succ_lt_succ less

/-- How many values an entry holds. -/
def entryNodes (entry : String × Value) : Nat := entry.2.nodes

theorem entryNodes_pos (entry : String × Value) : 0 < entryNodes entry := nodes_pos entry.2

theorem shrinks_object {fields others : Fields Value}
    (shrinks : Shrinks (fun entries => (entries.map entryNodes).sum) others.entries fields.entries) :
    Shrinks nodes (object others) (object fields) := by
  rcases shrinks with same | less
  · left
    rw [← Fields.ofList_entries others, same, Fields.ofList_entries]
  · right
    rw [nodes_object, nodes_object]
    exact Nat.succ_lt_succ less

theorem shrinks_mapFields {change : Fields Value → Fields Value}
    (each : ∀ fields, Shrinks nodes (object (change fields)) (object fields)) (value : Value) :
    Shrinks nodes (value.mapFields change) value := by
  by_cases fits : value.kind = .object
  · rw [← object_fields fits, mapFields_object]
    exact each value.fields
  · exact .inl (mapFields_of_kind_ne fits change)

theorem shrinks_mapItems {change : List Value → List Value}
    (each : ∀ items, Shrinks nodes (array (change items)) (array items)) (value : Value) :
    Shrinks nodes (value.mapItems change) value := by
  by_cases fits : value.kind = .array
  · rw [← array_items fits, mapItems_array]
    exact each value.items
  · exact .inl (mapItems_of_kind_ne fits change)

/-- Taking out what one step leads to. -/
theorem shrinks_remove_last (last : Step) (value : Value) :
    Shrinks nodes (value.remove [last]) value := by
  cases last with
  | key name =>
    exact shrinks_mapFields (fun fields => shrinks_object
      (.sum_of_sublist entryNodes_pos List.filter_sublist)) value
  | position index =>
    exact shrinks_mapItems (fun items => shrinks_array
      (.sum_of_sublist nodes_pos (List.eraseIdx_sublist items _))) value
  | wildcard =>
    exact shrinks_mapItems (fun items => shrinks_array
      (.sum_of_sublist nodes_pos (List.nil_sublist items))) value

/-- Where everything that a step leads to is the same or smaller, so is the whole. -/
theorem shrinks_mapStep (each : ∀ value, Shrinks nodes (f value) value) (step : Step)
    (value : Value) : Shrinks nodes (value.mapStep f step) value := by
  cases step with
  | key name =>
    refine shrinks_mapFields (fun fields => shrinks_object (.sum_of_forall₂ entryNodes_pos ?_)) value
    refine List.forall₂_map_left_iff.mpr (List.forall₂_same.mpr fun entry _ => ?_)
    by_cases here : entry.1 = name
    · rw [if_pos here]
      exact (each entry.2).imp_left fun same => by rw [same]
    · rw [if_neg here]
      exact .inl rfl
  | position index =>
    refine shrinks_mapItems (fun items => shrinks_array (.sum_of_forall₂ nodes_pos ?_)) value
    refine List.forall₂_iff_get.mpr ⟨by simp, fun i here there => ?_⟩
    rw [List.get_eq_getElem, List.get_eq_getElem, List.getElem_modify]
    split
    · exact each _
    · exact .inl rfl
  | wildcard =>
    refine shrinks_mapItems (fun items => shrinks_array (.sum_of_forall₂ nodes_pos ?_)) value
    exact List.forall₂_map_left_iff.mpr (List.forall₂_same.mpr fun item _ => each item)

/-- A removal changes nothing, or it leaves fewer values. -/
theorem shrinks_remove (path : Path) (value : Value) : Shrinks nodes (value.remove path) value := by
  induction path generalizing value with
  | nil => exact .inl rfl
  | cons step path ih =>
    by_cases last : path = []
    · subst last
      exact shrinks_remove_last step value
    · rw [remove_cons last]
      exact shrinks_mapStep ih step value

theorem mapFields_mapFields (change other : Fields Value → Fields Value) (value : Value) :
    (value.mapFields change).mapFields other = value.mapFields (other ∘ change) := by
  by_cases fits : value.kind = .object
  · rw [← object_fields fits, mapFields_object, mapFields_object, mapFields_object]
    rfl
  · rw [mapFields_of_kind_ne fits, mapFields_of_kind_ne fits, mapFields_of_kind_ne fits]

theorem mapItems_mapItems (change other : List Value → List Value) (value : Value) :
    (value.mapItems change).mapItems other = value.mapItems (other ∘ change) := by
  by_cases fits : value.kind = .array
  · rw [← array_items fits, mapItems_array, mapItems_array, mapItems_array]
    rfl
  · rw [mapItems_of_kind_ne fits, mapItems_of_kind_ne fits, mapItems_of_kind_ne fits]

/-- A second change of what a step leads to finds what the first one has made of it. -/
theorem mapStep_mapStep (f g : Value → Value) (step : Step) (value : Value) :
    (value.mapStep f step).mapStep g step = value.mapStep (g ∘ f) step := by
  cases step with
  | key name =>
    have both (fields : Fields Value) :
        (fields.modify name f).modify name g = fields.modify name (g ∘ f) := by
      refine Fields.ext_get? fun other => ?_
      simp only [Fields.get?_modify]
      split
      · exact Option.map_map _ _ _
      · rfl
    exact (mapFields_mapFields _ _ value).trans (congrArg (mapFields · value) (funext both))
  | position index =>
    exact (mapItems_mapItems _ _ value).trans
      (congrArg (mapItems · value) (funext fun items => List.modify_modify_eq f g _ items))
  | wildcard =>
    exact (mapItems_mapItems _ _ value).trans
      (congrArg (mapItems · value) (funext fun items => List.map_map))

/-- What was taken out under a name, or everywhere, is not there to be taken out once more. -/
theorem remove_remove_last {last : Step} (settled : ∀ index, last ≠ .position index)
    (value : Value) : (value.remove [last]).remove [last] = value.remove [last] := by
  cases last with
  | key name =>
    have again (fields : Fields Value) : (fields.erase name).erase name = fields.erase name :=
      Fields.erase_of_get? (by rw [Fields.get?_erase, if_pos rfl])
    exact (mapFields_mapFields _ _ value).trans (congrArg (mapFields · value) (funext again))
  | position index => exact absurd rfl (settled index)
  | wildcard => exact mapItems_mapItems _ _ value

theorem remove_remove {last : Step} (settled : ∀ index, last ≠ .position index) (above : Path)
    (value : Value) : (value.remove (above ++ [last])).remove (above ++ [last]) =
      value.remove (above ++ [last]) := by
  induction above generalizing value with
  | nil => exact remove_remove_last settled value
  | cons step above ih =>
    have steps : above ++ [last] ≠ [] := List.append_ne_nil_of_right_ne_nil _ (List.cons_ne_nil _ _)
    rw [List.cons_append, remove_cons steps, remove_cons steps, mapStep_mapStep]
    exact congrArg (mapStep · step value) (funext ih)

end Value

namespace Edit

variable {path : Path} {root after : Value}

/-- A removal that goes through leaves the root as it was, or with fewer values in it. If its path
ends with a name or a wildcard, the same removal goes through once more and changes nothing. -/
theorem run_unset_shrinks (steps : path ≠ []) (outcome : run ⟨path, .unset⟩ root = .ok after) :
    (after = root ∨ after.nodes < root.nodes) ∧
      ∀ last ∈ path.getLast?, (∀ index, last ≠ .position index) →
        run ⟨path, .unset⟩ after = .ok after := by
  have same : misfit? path after = misfit? path root := misfit?_congr path (kind_run steps outcome)
  rw [run_of_steps steps] at outcome ⊢
  cases fits : misfit? path root with
  | some e =>
    rw [fits] at outcome
    cases outcome
  | none =>
    rw [fits] at outcome
    obtain rfl := Except.ok.inj outcome
    refine ⟨Value.shrinks_remove path root, fun last ends settled => ?_⟩
    obtain ⟨above, rfl⟩ := List.getLast?_eq_some_iff.mp ends
    rw [same, fits]
    exact congrArg Except.ok (Value.remove_remove settled above root)

/-- An entry of every element, of which one has it, one does not and one is no object. -/
theorem run_unset_shrinks_everywhere :
    let item := Value.object (.ofList [("x", .array [.null, .null])])
    let root := Value.object (.ofList [("a", .array [item, .boolean true, .object .empty])])
    let left := Value.array [.object .empty, .boolean true, .object .empty]
    let after := Value.object (.ofList [("a", left)])
    let path : Path := [.key "a", .wildcard, .key "x"]
    run ⟨path, .unset⟩ root = .ok after ∧ after.nodes < root.nodes ∧
      run ⟨path, .unset⟩ after = .ok after := by
  intro item root left after path
  have outcome : run ⟨path, .unset⟩ root = .ok after := by rfl
  obtain ⟨less, again⟩ := run_unset_shrinks (List.cons_ne_nil _ _) outcome
  exact ⟨outcome, less.resolve_left (by decide), again (.key "x") rfl fun _ => Step.noConfusion⟩

/-- A removal that ends with a position takes out the element that has moved up. -/
example : carryOut [⟨[.position 0], .unset⟩, ⟨[.position 0], .unset⟩]
    (.array [.null, .boolean true]) = .array [] := by decide

end Edit
end PathEdit
