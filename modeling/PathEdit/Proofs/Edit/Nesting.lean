import PathEdit.Proofs.Edit.Writing

/-! Paths put together. Following, and editing through, one path and then another is following, or
editing through, the two as one. A write needs nothing for it: what the first path leads to is made
as the second one needs it. A removal makes nothing, so the first path must lead somewhere. -/
namespace PathEdit

namespace Value

variable {value item : Value} {f g : Value → Value} {p q : Path} {step : Step}

/-- A path leads somewhere only from the container that its first step leads into. -/
theorem kind_of_follow? (found : value.follow? (step :: p) = some item) :
    value.kind = step.container := by
  obtain ⟨child, there, -⟩ := exists_child found
  exact kind_of_child? there

/-- Only a path without wildcards leads somewhere. -/
theorem exact_of_follow? (found : value.follow? p = some item) : .wildcard ∉ p := by
  induction p generalizing value with
  | nil => exact List.not_mem_nil
  | cons step p ih =>
    obtain ⟨child, there, below⟩ := exists_child found
    intro member
    rcases List.mem_cons.mp member with here | later
    · subst here
      cases there
    · exact ih below later

theorem follow?_append (p q : Path) (value : Value) :
    value.follow? (p ++ q) = (value.follow? p).bind (follow? q) := by
  induction p generalizing value with
  | nil => rfl
  | cons step p ih =>
    rw [List.cons_append, follow?_cons, follow?_cons]
    cases value.child? step with
    | none => rfl
    | some child => exact ih child

theorem write_append (f : Value → Value) (p q : Path) : write f (p ++ q) = write (write f q) p := by
  induction p with
  | nil => rfl
  | cons step p ih => rw [List.cons_append, write_cons, ih, ← write_cons]

/-- What a write puts at a path depends on what the path leads to only. -/
theorem write_congr (found : value.follow? p = some item) (same : f item = g item) :
    value.write f p = value.write g p := by
  induction p generalizing value with
  | nil =>
    obtain rfl := Option.some.inj found
    exact same
  | cons step p ih =>
    obtain ⟨child, there, below⟩ := exists_child found
    rw [write_cons f, write_cons g]
    exact write_step_congr there (ih below)

/-- Where a path leads somewhere, a removal further down changes just what is there. -/
theorem remove_append (found : value.follow? p = some item) (steps : q ≠ []) :
    value.remove (p ++ q) = value.write (remove q) p := by
  induction p generalizing value with
  | nil => rfl
  | cons step p ih =>
    obtain ⟨child, there, below⟩ := exists_child found
    have further : p ++ q ≠ [] := List.append_ne_nil_of_right_ne_nil p steps
    rw [List.cons_append, remove_step there further, write_cons (remove q)]
    exact write_step_congr there (ih below)

/-- The value as a step needs it: itself, or an empty container of the kind that the step leads
into. -/
def fitted (step : Step) (value : Value) : Value :=
  if value.kind = step.container then value else step.fresh

theorem kind_fitted (step : Step) (value : Value) : (value.fitted step).kind = step.container := by
  rw [fitted]
  split
  · assumption
  · exact step.kind_fresh

theorem write_fitted (f : Value → Value) (step : Step) (path : Path) (value : Value) :
    (value.fitted step).write f (step :: path) = value.write f (step :: path) := by
  rw [fitted]
  split
  · rfl
  · rename_i misfit
    exact (write_of_misfit misfit f path).symm

end Value

namespace Operation

variable {value item : Value} {p q : Path}

/-- Where a path leads somewhere, an operation further down changes just what is there. -/
theorem onPath_append (found : value.follow? p = some item) (steps : q ≠ []) (f : Operation) :
    f.onPath (p ++ q) value = value.write (f.onPath q) p := by
  cases f with
  | set | apply => exact congrFun (Value.write_append _ p q) value
  | unset => exact Value.remove_append found steps

end Operation

namespace Edit

variable {f : Operation} {p q : Path} {step : Step}

/-- Whether a path with steps fits is a matter of its first step once its positions are in range. -/
theorem misfit?_append (steps : p ≠ []) (q : Path)
    (inside : ∀ index, .position index ∈ p ++ q → index ≤ maxPosition) (root : Value) :
    misfit? (p ++ q) root = misfit? p root := by
  have within := beyond?_eq_none_iff.mpr inside
  have within' := beyond?_eq_none_iff.mpr fun index member =>
    inside index (List.mem_append_left _ member)
  obtain ⟨step, p, rfl⟩ := List.exists_cons_of_ne_nil steps
  rw [misfit?.eq_def, misfit?.eq_def, within, within']
  cases step <;> rfl

/-- A write through one path and then another is a write through the first one, of what the second
one makes of the value there, or of an empty container where that value does not hold what the
second path leads into. Both answer alike and leave the same root. -/
theorem run_append (steps : p ≠ [])
    (inside : ∀ index, .position index ∈ p ++ step :: q → index ≤ maxPosition)
    (writes : f.writes = true) :
    ∃ below : Value → Value,
      (∀ value : Value, run ⟨step :: q, f⟩ (value.fitted step) = .ok (below value)) ∧
        ∀ root, run ⟨p ++ step :: q, f⟩ root = run ⟨p, .apply below⟩ root := by
  refine ⟨Value.write f.produce (step :: q), fun value => ?_, fun root => ?_⟩
  · have fits : misfit? (step :: q) (value.fitted step) = none := misfit?_eq_none_iff.mpr
      ⟨fun index member => inside index (List.mem_append_right _ member), value.kind_fitted step⟩
    rw [run_of_steps (List.cons_ne_nil _ _), fits]
    refine congrArg Except.ok ?_
    rw [Operation.onPath_of_writes writes, Value.write_fitted]
  · have whole : p ++ step :: q ≠ [] := by simp
    rw [run_of_steps whole, run_of_steps steps]
    simp only [misfit?_append steps _ inside]
    cases misfit? p root with
    | some => rfl
    | none =>
      refine congrArg Except.ok ?_
      rw [Operation.onPath_of_writes writes, Value.write_append]
      rfl

/-- A counter below a common beginning of paths that leads to every element of a list: one of the
elements becomes an object, and the counter of the other one is changed. -/
theorem run_append_counters :
    let root := Value.object (.ofList [("deploy", .array
      [.boolean true, .object (.ofList [("a", .array [.integer 1, .integer 2])])])])
    let p : Path := [.key "deploy", .wildcard]
    let q : Path := [.key "a", .position 1]
    let wrap (value : Value) := Value.array [value]
    ∃ below : Value → Value,
      run ⟨q, .apply wrap⟩ (.object .empty) = .ok (below (.boolean true)) ∧
      run ⟨p ++ q, .apply wrap⟩ root = run ⟨p, .apply below⟩ root ∧
      run ⟨p, .apply below⟩ root = .ok (.object (.ofList [("deploy", .array
        [.object (.ofList [("a", .array [.null, .array [.null]])]),
          .object (.ofList [("a", .array [.integer 1, .array [.integer 2]])])])])) := by
  intro root p q wrap
  have inside : ∀ index, .position index ∈ p ++ q → index ≤ maxPosition := by
    intro index member
    obtain rfl : index = 1 := by simpa [p, q] using member
    decide
  obtain ⟨below, each, same⟩ :=
    run_append (f := .apply wrap) (List.cons_ne_nil _ _ : p ≠ []) inside rfl
  exact ⟨below, each (.boolean true), same root, (same root).symm.trans (by rfl)⟩

end Edit
end PathEdit
