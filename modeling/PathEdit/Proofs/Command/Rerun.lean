import PathEdit.Command.Run
import PathEdit.Proofs.Batch.Origin
import PathEdit.Proofs.Document.Rebuilding
import PathEdit.Proofs.Edit.Floats
import PathEdit.Proofs.Edit.Root
import PathEdit.Proofs.Json.Limit

/-! Runs on the output of runs. Assignments can nest values deeper than the reader goes, so the
output of a run is the input of the next one just as long as it stays within that limit. -/
namespace PathEdit

namespace Command.RunOptions

variable {run : RunOptions} {root : Value}

/-- A run starts from a container. -/
theorem isContainer_root (begins : run.root = .ok root) : root.isContainer = true := by
  rw [RunOptions.root] at begins
  split at begins
  · obtain rfl := Except.ok.inj begins
    cases run.array <;> rfl
  · split at begins
    · cases begins
    · split at begins
      · rename_i container
        exact Except.ok.inj begins ▸ container
      · cases begins

/-- An argument is the text of a path, or the value of an assignment. -/
theorem mem_arguments {sets : List String} {arguments : List Argument} {argument : Argument}
    (outcome : RunOptions.arguments sets = .ok arguments) (member : argument ∈ arguments) :
    (∃ path, argument = .value (.string path)) ∨
      ∃ text ∈ sets, ∃ assignment, Assignment.parse text = .ok assignment ∧
        argument = .value assignment.value := by
  induction sets generalizing arguments with
  | nil =>
    cases outcome
    cases member
  | cons text rest ih =>
    obtain ⟨assignment, parsed, outcome⟩ := exists_of_bind_ok outcome
    obtain ⟨others, later, outcome⟩ := exists_of_bind_ok outcome
    cases outcome
    rcases List.mem_cons.mp member with rfl | member
    · exact .inl ⟨_, rfl⟩
    rcases List.mem_cons.mp member with rfl | member
    · exact .inr ⟨text, List.mem_cons_self, assignment, parsed, rfl⟩
    · refine (ih later member).imp_right ?_
      rintro ⟨text, held, found⟩
      exact ⟨text, List.mem_cons_of_mem _ held, found⟩

/-- What a run that succeeds has done: it has read its arguments as edits, run them on its root, and
rendered the result. -/
structure Success (run : RunOptions) (output : RunOutput) where
  s : PathSyntax
  accepted : PathSyntax.ofFormat? run.options.format = some s
  root : Value
  begins : run.root = .ok root
  arguments : List Argument
  given : RunOptions.arguments run.sets = .ok arguments
  writes : Sifted Edit
  set : Batch.set ⟨s, run.options.strict, .plain⟩ arguments = .ok writes
  removals : Sifted Edit
  unset : Batch.unset ⟨s, run.options.strict, .plain⟩ run.unsets = .ok removals
  result : Value
  failed : List Error
  edited : Document.runEdits run.options.strict (writes.kept ++ removals.kept) root =
    .ok (result, failed)
  rendered : output = ⟨run.render result, writes.dropped ++ removals.dropped ++ failed⟩

theorem exists_success {output : RunOutput} (outcome : run.execute = .ok output) :
    Nonempty (run.Success output) := by
  obtain ⟨root, begins, outcome⟩ := exists_of_bind_ok outcome
  obtain ⟨arguments, given, outcome⟩ := exists_of_bind_ok outcome
  obtain ⟨document, queued, outcome⟩ := exists_of_bind_ok outcome
  have made : run.document root arguments = .ok document := by
    cases made : run.document root arguments <;> rw [made] at queued <;> cases queued
    rfl
  obtain ⟨first, started, made⟩ := exists_of_bind_ok made
  obtain ⟨second, writing, removing⟩ := exists_of_bind_ok made
  obtain ⟨s, accepted, rfl⟩ := Document.ofValueWith_ok started
  rw [Document.start_container _ _ (isContainer_root begins)] at writing
  obtain ⟨writes, set, rfl⟩ := exists_of_map_ok writing
  obtain ⟨removals, unset, rfl⟩ := exists_of_map_ok removing
  simp only [Document.enqueue, Document.materialize, List.nil_append] at outcome
  cases edited : Document.runEdits run.options.strict (writes.kept ++ removals.kept) root with
  | error e =>
    rw [edited] at outcome
    cases outcome
  | ok done =>
    rw [edited] at outcome
    exact ⟨⟨s, accepted, root, begins, arguments, given, writes, set, removals, unset, done.1,
      done.2, edited, (Except.ok.inj outcome).symm⟩⟩

namespace Success

variable {output : RunOutput}

theorem execute_eq (success : run.Success output) : run.execute = .ok output := by
  obtain ⟨s, accepted, root, begins, arguments, given, writes, set, removals, unset, result, failed,
    edited, rendered⟩ := success
  have queued : run.document root arguments = .ok ⟨run.options.strict, s, root,
      writes.kept ++ removals.kept, writes.dropped ++ removals.dropped⟩ := by
    simp only [document, Document.ofValueWith_of_accepted accepted, bind, Except.bind,
      Document.start_container _ _ (isContainer_root begins), Document.set, Document.unset,
      Document.batch, Document.enqueue, set, unset, Except.map, List.nil_append]
  simp only [execute, begins, given, queued, bind, Except.bind, Except.mapError,
    Document.materialize, edited, rendered]
  rfl

theorem isContainer_result (success : run.Success output) :
    success.result.isContainer = true :=
  Document.runEdits_keeps (fun _ _ _ _ container outcome => Edit.isContainer_run container outcome)
    (isContainer_root success.begins) success.edited

/-- The result has no floats when the root has none and no assignment has any. -/
theorem floats_result (success : run.Success output) (root : success.root.floats = [])
    (assigned : ∀ text ∈ run.sets, ∀ assignment, Assignment.parse text = .ok assignment →
      assignment.value.floats = []) : success.result.floats = [] := by
  refine Document.runEdits_keeps (motive := fun value => value.floats = [])
    (fun edit member _ _ without outcome => Edit.floats_run ?_ without outcome) root success.edited
  rcases List.mem_append.mp member with write | removal
  · obtain ⟨argument, source, operation⟩ := Batch.operation_of_set success.set write
    rw [operation]
    rcases source with given | rfl
    · rcases mem_arguments success.given given with ⟨path, rfl⟩ | ⟨text, held, found, parsed, rfl⟩
      · rfl
      · exact assigned text held found parsed
    · rfl
  · rw [Batch.operation_of_unset success.unset removal]
    trivial

end Success

/-- The run that only reads a text and renders it in the same form. -/
def again (run : RunOptions) (text : String) : RunOptions :=
  { run with input := some text, sets := [], unsets := [] }

/-- A run without assignments and removals renders its root. -/
theorem execute_again {text : String} {s : PathSyntax}
    (accepted : PathSyntax.ofFormat? run.options.format = some s)
    (begins : (run.again text).root = .ok root) :
    (run.again text).execute = .ok ⟨run.render root, []⟩ := by
  exact Success.execute_eq ⟨s, accepted, root, begins, [], rfl, ⟨[], []⟩, rfl, ⟨[], []⟩, rfl, root,
    [], rfl, rfl⟩

/-- The output of a run without floats, given to the same run without assignments and removals, comes
out again as it is, with nothing passed over, as long as the rendered value is within the limit of the
reader; beyond it, it is refused. -/
theorem execute_execute {layout : Json.Layout} {output : RunOutput}
    (form : run.output = .json layout) (blank : layout.IsBlank)
    (read : ∀ root, run.root = .ok root → root.floats = [])
    (assigned : ∀ text ∈ run.sets, ∀ assignment, Assignment.parse text = .ok assignment →
      assignment.value.floats = [])
    (outcome : run.execute = .ok output) :
    ∃ result : Value, output.text = Json.print layout result ∧
      (run.again output.text).execute =
        if result.depth ≤ Json.maxDepth then .ok ⟨output.text, []⟩ else .error .invalidJson := by
  obtain ⟨success⟩ := exists_success outcome
  have without := success.floats_result (read _ success.begins) assigned
  have text : output.text = Json.print layout success.result := by
    rw [congrArg RunOutput.text success.rendered, render, form]
  have back := Json.read?_print_eq_ite blank without
  refine ⟨success.result, text, ?_⟩
  split
  · rename_i shallow
    rw [if_pos shallow, ← text] at back
    have begins : (run.again output.text).root = .ok success.result := by
      simp only [again, RunOptions.root, back, success.isContainer_result, if_true]
    rw [execute_again success.accepted begins, render, form, text]
  · rename_i deep
    rw [if_neg deep, ← text] at back
    have begins : (run.again output.text).root = .error .invalidJson := by
      simp only [again, RunOptions.root, back]
    rw [execute, begins]
    rfl

/-- The run that starts from nothing and assigns the value of a text to the name `a`. -/
def assigning (text : List Char) : RunOptions :=
  { input := none, array := false, options := .standard
    sets := [String.ofList ('a' :: '=' :: text)], unsets := [], output := .json .compact }

section Assigning

variable {text : List Char} {value : Value}

theorem parse_assigning (read : Json.readChars? text = some value) :
    Assignment.parse (String.ofList ('a' :: '=' :: text)) = .ok ⟨"a", value⟩ := by
  simp [Assignment.parse, read]

theorem floats_assigning (read : Json.readChars? text = some value) (without : value.floats = []) :
    ∀ given ∈ (assigning text).sets, ∀ assignment, Assignment.parse given = .ok assignment →
      assignment.value.floats = [] := by
  intro given member assignment parsed
  obtain rfl := List.mem_singleton.mp member
  rw [parse_assigning read] at parsed
  exact Except.ok.inj parsed ▸ without

theorem execute_assigning (read : Json.readChars? text = some value) : (assigning text).execute =
    .ok ⟨Json.print .compact (.object (.ofList [("a", value)])), []⟩ := by
  have legal : ∀ leaf ∈ [([Step.key "a"], value)], ∀ step ∈ leaf.1, step.Nameable := by
    simp only [List.forall_mem_singleton]
    exact (by decide : Grammar.Identifier Grammar.isQuotable "a".toList)
  exact Success.execute_eq
    { s := .standard
      accepted := PathSyntax.ofFormat?_standardFormat
      root := .object .empty
      begins := rfl
      arguments := Document.leafArguments [([.key "a"], value)]
      given := by
        rw [assigning, arguments, parse_assigning read]
        rfl
      writes := ⟨[⟨[.key "a"], .set value⟩], []⟩
      set := Document.set_leafArguments legal false
      removals := ⟨[], []⟩
      unset := rfl
      result := .object (.ofList [("a", value)])
      failed := []
      edited := rfl
      rendered := rfl }

end Assigning

/-- An array within the limit, assigned to a name: its object comes out again. -/
theorem execute_execute_assigning :
    ∃ result : Value, "\x7b\"a\":[1,[]]\x7d" = Json.print .compact result ∧
      ((assigning "[1, []]".toList).again "\x7b\"a\":[1,[]]\x7d").execute =
        if result.depth ≤ Json.maxDepth then .ok ⟨"\x7b\"a\":[1,[]]\x7d", []⟩
        else .error .invalidJson := by
  have read : Json.readChars? "[1, []]".toList = some (.array [.integer 1, .array []]) := by
    decide +kernel
  have outcome := execute_assigning read
  have text : Json.print .compact (.object (.ofList [("a", .array [.integer 1, .array []])])) =
      "\x7b\"a\":[1,[]]\x7d" := by decide +kernel
  rw [text] at outcome
  refine execute_execute rfl Json.Layout.compact_isBlank (fun root begins => ?_)
    (floats_assigning read (by decide +kernel)) outcome
  cases begins
  rfl

/-- Arrays inside each other. -/
def nest : Nat → Value
  | 0 => .array []
  | n + 1 => .array [nest n]

/-- A value without floats whose object is beyond the limit of the reader: the run that assigns it
succeeds, and its output is refused. -/
theorem execute_assigning_deep {text : List Char} {value : Value}
    (read : Json.readChars? text = some value)
    (without : (Value.object (.ofList [("a", value)])).floats = [])
    (deep : Json.maxDepth < (Value.object (.ofList [("a", value)])).depth) :
    ∃ output, (assigning text).execute = .ok output ∧
      ((assigning text).again output.text).execute ≠ .ok ⟨output.text, []⟩ := by
  refine ⟨_, execute_assigning read, ?_⟩
  have refused := Json.read?_print_eq_ite Json.Layout.compact_isBlank without
  rw [if_neg (Nat.not_le.mpr deep)] at refused
  have begins : ((assigning text).again
      (Json.print .compact (.object (.ofList [("a", value)])))).root = .error .invalidJson := by
    simp only [again, RunOptions.root, refused]
  rw [execute, begins]
  nofun

/-- An array with as many levels as the reader takes, assigned to a name: its object has one more, so
that the run succeeds without floats and its output is refused. -/
theorem execute_assigning_nest :
    let run := assigning (List.replicate 127 '[' ++ List.replicate 127 ']')
    run.output = .json .compact ∧
      (∀ root, run.root = .ok root → root.floats = []) ∧
      (∀ text ∈ run.sets, ∀ assignment, Assignment.parse text = .ok assignment →
        assignment.value.floats = []) ∧
      ∃ output, run.execute = .ok output ∧
        (run.again output.text).execute ≠ .ok ⟨output.text, []⟩ := by
  intro run
  have read : Json.readChars? (List.replicate 127 '[' ++ List.replicate 127 ']') =
      some (nest 126) := by decide +kernel
  have without : (nest 126).floats = [] := by decide +kernel
  refine ⟨rfl, fun root begins => ?_, floats_assigning read without, ?_⟩
  · cases begins
    rfl
  · exact execute_assigning_deep read (by decide +kernel) (by decide +kernel)

end Command.RunOptions
end PathEdit
