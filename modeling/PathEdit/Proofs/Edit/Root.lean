import PathEdit.Proofs.Edit.Series

/-! Roots under edits. Whether an edit through a path fits is a matter of the path and of the kind of
the root, and such an edit leaves the kind as it is, so that it neither opens nor closes the way for
another one. Only an edit that replaces the root changes the kind. -/
namespace PathEdit

namespace Step

/-- The kind of the container that a step leads into. -/
def container (step : Step) : Kind := if step.isIndex then .array else .object

/-- What a step makes of a slot that does not hold the container it leads into. -/
def fresh (step : Step) : Value := if step.isIndex then .array [] else .object .empty

theorem kind_fresh (step : Step) : step.fresh.kind = step.container := by
  rw [fresh, container]
  split
  · exact Value.kind_array _
  · exact Value.kind_object _

end Step

namespace Value

variable {value : Value} {step : Step}

theorem kind_write (f : Value → Value) (step : Step) (path : Path) (value : Value) :
    (value.write f (step :: path)).kind = step.container := by
  cases step with
  | key => exact kind_object _
  | position | wildcard => exact kind_array _

theorem kind_mapFields (f : Fields Value → Fields Value) (value : Value) :
    (value.mapFields f).kind = value.kind := by
  by_cases same : value.kind = .object
  · rw [← object_fields same, mapFields_object, kind_object, kind_object]
  · rw [mapFields_of_kind_ne same]

theorem kind_mapItems (f : List Value → List Value) (value : Value) :
    (value.mapItems f).kind = value.kind := by
  by_cases same : value.kind = .array
  · rw [← array_items same, mapItems_array, kind_array, kind_array]
  · rw [mapItems_of_kind_ne same]

theorem kind_remove (path : Path) (value : Value) : (value.remove path).kind = value.kind := by
  unfold remove
  split <;> first | rfl | exact kind_mapFields _ _ | exact kind_mapItems _ _

/-- Writing makes the container that the first step leads into, where it does not find it. -/
theorem write_of_misfit (misfit : value.kind ≠ step.container) (f : Value → Value) (path : Path) :
    value.write f (step :: path) = step.fresh.write f (step :: path) := by
  cases step with
  | key =>
    rw [write, fields_of_kind_ne misfit]
    rfl
  | position | wildcard =>
    rw [write, items_of_kind_ne misfit]
    rfl

/-- Removing leaves a value alone that is not the container which the first step leads into. -/
theorem remove_of_misfit (misfit : value.kind ≠ step.container) (path : Path) :
    value.remove (step :: path) = value := by
  cases step with
  | key => cases path <;> exact mapFields_of_kind_ne misfit _
  | position | wildcard => cases path <;> exact mapItems_of_kind_ne misfit _

end Value

namespace Edit

variable {edit other : Edit} {root after : Value}

theorem beyond?_eq_none_iff {path : Path} :
    beyond? path = none ↔ ∀ index, .position index ∈ path → index ≤ maxPosition := by
  induction path with
  | nil => simp [beyond?]
  | cons step path ih =>
    cases step with
    | key | wildcard => simpa [beyond?] using ih
    | position index =>
      rw [beyond?]
      split
      · rename_i outside
        simp [UInt64.not_le.mpr outside]
      · rename_i inside
        simp [ih, UInt64.not_lt.mp inside]

theorem misfit?_eq_none_iff {step : Step} {path : Path} :
    misfit? (step :: path) root = none ↔
      (∀ index, .position index ∈ step :: path → index ≤ maxPosition) ∧
        root.kind = step.container := by
  rw [← beyond?_eq_none_iff, misfit?.eq_def]
  cases beyond? (step :: path) with
  | some => simp
  | none => cases step <;> simp [Step.container, Step.isIndex]

theorem misfit?_congr (path : Path) {other : Value} (same : root.kind = other.kind) :
    misfit? path root = misfit? path other := by
  rw [misfit?.eq_def, misfit?.eq_def, same]

/-- An edit through a path goes through where the path fits. -/
theorem run_of_steps (steps : edit.path ≠ []) (root : Value) :
    edit.run root =
      match misfit? edit.path root with
      | some e => .error e
      | none => .ok (edit.operation.onPath edit.path root) := by
  obtain ⟨path, operation⟩ := edit
  cases path with
  | nil => exact absurd rfl steps
  | cons => rfl

/-- An edit through a path leaves a root of the same kind. -/
theorem kind_run (steps : edit.path ≠ []) (outcome : edit.run root = .ok after) :
    after.kind = root.kind := by
  rw [run_of_steps steps] at outcome
  split at outcome
  · cases outcome
  · rename_i fits
    obtain rfl := Except.ok.inj outcome
    obtain ⟨path, operation⟩ := edit
    cases operation with
    | unset => exact Value.kind_remove _ _
    | set | apply =>
      obtain ⟨step, path, rfl⟩ := List.exists_cons_of_ne_nil steps
      exact (Value.kind_write _ _ _ _).trans (misfit?_eq_none_iff.mp fits).2.symm

/-- An edit without a path leaves what it makes of the whole root, which is a container. -/
theorem run_replacing (operation : Operation) (outcome : run ⟨[], operation⟩ root = .ok after) :
    after = operation.onRoot root ∧ after.isContainer = true := by
  simp only [run] at outcome
  split at outcome
  · rename_i replaced
    obtain rfl := Except.ok.inj outcome
    exact ⟨rfl, replaced⟩
  · cases outcome

theorem isContainer_run (container : root.isContainer = true)
    (outcome : edit.run root = .ok after) : after.isContainer = true := by
  by_cases steps : edit.path = []
  · obtain ⟨path, operation⟩ := edit
    obtain rfl : path = [] := steps
    exact (run_replacing operation outcome).2
  · rw [Value.isContainer_iff, kind_run steps outcome]
    exact Value.isContainer_iff.mp container

/-- What an edit answers: nothing, or why it does not fit. -/
def answer (edit : Edit) (root : Value) : Except Error Unit := (edit.run root).map fun _ => ()

theorem answer_of_steps (steps : edit.path ≠ []) (root : Value) :
    edit.answer root =
      match misfit? edit.path root with
      | some e => .error e
      | none => .ok () := by
  rw [answer, run_of_steps steps]
  cases misfit? edit.path root <;> rfl

theorem attempt_of_fits (steps : edit.path ≠ []) (fits : misfit? edit.path root = none) :
    attempt root edit = edit.operation.onPath edit.path root := by
  rw [attempt, run_of_steps steps, fits]
  rfl

theorem attempt_of_misfit (steps : edit.path ≠ []) (misfit : misfit? edit.path root ≠ none) :
    attempt root edit = root := by
  obtain ⟨e, found⟩ := Option.ne_none_iff_exists'.mp misfit
  rw [attempt, run_of_steps steps, found]
  rfl

theorem kind_attempt (steps : edit.path ≠ []) (root : Value) :
    (attempt root edit).kind = root.kind := by
  rw [attempt]
  cases outcome : edit.run root with
  | error => rfl
  | ok => exact kind_run steps outcome

/-- Whether a path fits is the same before and after an edit through a path. -/
theorem misfit?_attempt (steps : edit.path ≠ []) (path : Path) (root : Value) :
    misfit? path (attempt root edit) = misfit? path root :=
  misfit?_congr path (kind_attempt steps root)

/-- Edits through paths that fit are all carried out: none of them closes the way for another. -/
theorem carryOut_of_fits {edits : List Edit}
    (fit : ∀ edit ∈ edits, edit.path ≠ [] ∧ misfit? edit.path root = none) :
    carryOut edits root = edits.foldl (fun root edit => edit.operation.onPath edit.path root) root ∧
      faults edits root = [] := by
  induction edits generalizing root with
  | nil => exact ⟨rfl, rfl⟩
  | cons edit rest ih =>
    obtain ⟨⟨steps, fits⟩, others⟩ := List.forall_mem_cons.mp fit
    have outcome : edit.run root = .ok (edit.operation.onPath edit.path root) := by
      rw [run_of_steps steps, fits]
    have still := ih fun other member => ⟨(others other member).1,
      (misfit?_congr other.path (kind_run steps outcome)).trans (others other member).2⟩
    rw [carryOut_cons_ok outcome, faults, outcome]
    exact still

theorem answer_attempt (steps : edit.path ≠ []) (first : other.path ≠ []) (root : Value) :
    edit.answer (attempt root other) = edit.answer root := by
  rw [answer_of_steps steps, answer_of_steps steps, misfit?_attempt first]

end Edit
end PathEdit
