import PathEdit.Document

/-! Edits one after the other. In lenient mode those that fail are passed over, so that the root
and the errors of a series follow from those of its parts. -/
namespace PathEdit

namespace Edit

/-- The root after an edit, as it was when the edit fails. -/
def attempt (root : Value) (edit : Edit) : Value := (edit.run root).toOption.getD root

/-- The root after all edits of a list that do not fail. -/
def carryOut (edits : List Edit) (root : Value) : Value := edits.foldl attempt root

/-- The errors of the edits of a list that fail, in order. -/
def faults : List Edit → Value → List Error
  | [], _ => []
  | edit :: rest, root =>
    match edit.run root with
    | .ok after => faults rest after
    | .error e => e :: faults rest root

theorem carryOut_append (edits others : List Edit) (root : Value) :
    carryOut (edits ++ others) root = carryOut others (carryOut edits root) :=
  List.foldl_append

theorem carryOut_cons_ok {edit : Edit} {root after : Value} (outcome : edit.run root = .ok after)
    (rest : List Edit) : carryOut (edit :: rest) root = carryOut rest after := by
  rw [carryOut, List.foldl_cons, attempt, outcome]
  rfl

theorem carryOut_cons_error {edit : Edit} {root : Value} (outcome : edit.run root = .error e)
    (rest : List Edit) : carryOut (edit :: rest) root = carryOut rest root := by
  rw [carryOut, List.foldl_cons, attempt, outcome]
  rfl

theorem faults_append (edits others : List Edit) (root : Value) :
    faults (edits ++ others) root = faults edits root ++ faults others (carryOut edits root) := by
  induction edits generalizing root with
  | nil => rfl
  | cons edit rest ih =>
    cases outcome : edit.run root with
    | ok after => simp [faults, outcome, carryOut_cons_ok outcome, ih]
    | error e => simp [faults, outcome, carryOut_cons_error outcome, ih]

end Edit

namespace Document

/-- In lenient mode a run has always a result. -/
theorem runEdits_lenient (edits : List Edit) (root : Value) :
    runEdits false edits root = .ok (Edit.carryOut edits root, Edit.faults edits root) := by
  induction edits generalizing root with
  | nil => rfl
  | cons edit rest ih =>
    cases outcome : edit.run root with
    | ok after => simp [runEdits, Edit.faults, outcome, Edit.carryOut_cons_ok outcome, ih]
    | error e =>
      simp [runEdits, Edit.faults, outcome, Edit.carryOut_cons_error outcome, ih, Except.map]

variable {strict : Bool} {edits : List Edit} {root after : Value} {errors : List Error}

/-- What each edit that succeeds keeps, a whole run keeps. -/
theorem runEdits_keeps {motive : Value → Prop}
    (each : ∀ edit ∈ edits, ∀ root after, motive root → edit.run root = .ok after → motive after)
    (start : motive root) (outcome : runEdits strict edits root = .ok (after, errors)) :
    motive after := by
  induction edits generalizing root errors with
  | nil =>
    cases outcome
    exact start
  | cons edit rest ih =>
    obtain ⟨first, others⟩ := List.forall_mem_cons.mp each
    rw [runEdits] at outcome
    split at outcome
    · rename_i next success
      exact ih others (first root next start success) outcome
    · split at outcome
      · cases outcome
      · cases done : runEdits strict rest root with
        | error e => simp [done, Except.map] at outcome
        | ok result =>
          obtain ⟨last, later⟩ := result
          simp only [done, Except.map, Except.ok.injEq, Prod.mk.injEq] at outcome
          exact ih others start (outcome.1 ▸ done)

end Document
end PathEdit
