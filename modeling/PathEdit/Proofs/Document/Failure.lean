import PathEdit.Proofs.Document.Agreement
import PathEdit.Proofs.Edit.Series

/-! What failing calls leave behind. A call that cannot queue its edits changes nothing, and a queue
that cannot be materialized is dropped, so that the content is always the tree that was
materialized last. -/
namespace PathEdit

namespace Call

/-- Whether the call asks for edits. -/
def Queues : Call → Prop
  | .set .. | .unset .. | .apply .. => True
  | .materialize | .json _ | .yaml | .decode _ | .errors | .takeErrors => False

/-- Whether the call materializes the document, whatever it answers then. -/
def materializes : Call → Bool
  | .materialize | .json _ | .yaml | .decode _ => true
  | .set .. | .unset .. | .apply .. | .errors | .takeErrors => false

/-- The edits that the call asks for. -/
def batch (s : PathSyntax) (strict : Bool) : Call → Except Error (Sifted Edit)
  | .set policy arguments => Batch.set ⟨s, strict, policy⟩ arguments
  | .unset policy paths => Batch.unset ⟨s, strict, policy⟩ paths
  | .apply policy arguments => Batch.apply ⟨s, strict, policy⟩ arguments
  | .materialize | .json _ | .yaml | .decode _ | .errors | .takeErrors => .ok ⟨[], []⟩

theorem batch_relaxed (s : PathSyntax) (call : Call) :
    Relaxed Sifted.dropped (call.batch s true) (call.batch s false) := by
  cases call with
  | set policy arguments => exact Batch.set_relaxed s policy arguments
  | unset policy paths => exact Batch.unset_relaxed s policy paths
  | apply policy arguments => exact Batch.apply_relaxed s policy arguments
  | materialize | json | yaml | decode | errors | takeErrors => exact ⟨_, rfl, rfl⟩

end Call

namespace Document

/-- The tree that a call materializes, if it does. -/
def tree? (document : Document) (call : Call) : Option Value :=
  if call.materializes then document.materialize.2.toOption else none

/-- The trees that some calls materialize, in order. -/
def trees (document : Document) : List Call → List Value
  | [] => []
  | call :: rest => (document.tree? call).toList ++ (document.perform call).1.trees rest

variable {document : Document} {call : Call}

theorem materialize_lenient (lenient : document.strict = false) :
    document.materialize =
      ({ document with
          content := Edit.carryOut document.queue document.content
          queue := []
          errors := document.errors ++ Edit.faults document.queue document.content },
        .ok (Edit.carryOut document.queue document.content)) := by
  rw [materialize, lenient, runEdits_lenient]

theorem materialize_failed (failed : document.materialize.2 = .error e) :
    document.strict = true ∧ document.materialize = ({ document with queue := [] }, .error e) := by
  cases strict : document.strict with
  | false =>
    rw [materialize_lenient strict] at failed
    cases failed
  | true =>
    refine ⟨rfl, ?_⟩
    rw [← strict]
    rw [materialize] at failed ⊢
    split at failed
    · cases failed
    · cases failed
      rfl

theorem perform_failed (materializes : call.materializes = true)
    (failed : document.materialize.2 = .error e) :
    document.perform call = ({ document with queue := [] }, .failure e) := by
  have outcome := (materialize_failed failed).2
  cases call with
  | materialize | json | yaml | decode => rw [perform, render, outcome]
  | set | unset | apply | errors | takeErrors => cases materializes

theorem settle_failed {outcome : Except Error Document}
    (failed : (document.settle outcome).2 = .failure e) :
    (document.settle outcome).1 = document := by
  cases outcome with
  | ok => cases failed
  | error => rfl

theorem perform_queues (document : Document) (queues : call.Queues) :
    document.perform call =
      document.settle ((call.batch document.syntaxOf document.strict).map document.enqueue) := by
  cases call with
  | set | unset | apply => rfl
  | materialize | json | yaml | decode | errors | takeErrors => exact queues.elim

theorem perform_queues_failed (queues : call.Queues)
    (failed : (document.perform call).2 = .failure e) : (document.perform call).1 = document := by
  rw [document.perform_queues queues] at failed ⊢
  exact settle_failed failed

theorem perform_materializes (document : Document) (materializes : call.materializes = true) :
    (document.perform call).1 = document.materialize.1 := by
  have rendered (reply : Value → Reply) : (document.render reply).1 = document.materialize.1 := by
    rw [render]
    cases document.materialize with
    | mk after outcome => cases outcome <;> rfl
  cases call with
  | materialize | json | yaml | decode => exact rendered _
  | set | unset | apply | errors | takeErrors => cases materializes

theorem runEdits_strict {edits : List Edit} {root : Value}
    (success : runEdits true edits root = .ok outcome) : outcome.2 = [] :=
  (runEdits_relaxed edits root).errors_eq_nil success

/-- What a call can make of a document. -/
inductive Step (document : Document) (call : Call) : Document → Prop
  | stays (idle : call.materializes = false) : Step document call document
  | queues (idle : call.materializes = false)
      (made : call.batch document.syntaxOf document.strict = .ok edits) :
      Step document call (document.enqueue edits)
  | materializes (renders : call.materializes = true) : Step document call document.materialize.1
  | clears (idle : call.materializes = false) : Step document call { document with errors := [] }

theorem perform_step (document : Document) (call : Call) :
    document.Step call (document.perform call).1 := by
  have settled (queues : call.Queues) (idle : call.materializes = false) :
      document.Step call (document.perform call).1 := by
    rw [document.perform_queues queues]
    cases made : call.batch document.syntaxOf document.strict with
    | ok edits => exact .queues idle made
    | error => exact .stays idle
  have rendered (renders : call.materializes = true) :
      document.Step call (document.perform call).1 := by
    rw [document.perform_materializes renders]
    exact .materializes renders
  cases call with
  | set | unset | apply => exact settled trivial rfl
  | materialize | json | yaml | decode => exact rendered rfl
  | errors => exact .stays rfl
  | takeErrors => exact .clears rfl

namespace Step

variable {after : Document}

theorem strict_eq (step : document.Step call after) : after.strict = document.strict := by
  cases step with
  | stays | queues | clears => rfl
  | materializes =>
    rw [materialize]
    cases runEdits document.strict document.queue document.content <;> rfl

theorem syntaxOf_eq (step : document.Step call after) : after.syntaxOf = document.syntaxOf := by
  cases step with
  | stays | queues | clears => rfl
  | materializes =>
    rw [materialize]
    cases runEdits document.strict document.queue document.content <;> rfl

/-- A call that materializes leaves the tree that it made, and any other one the content. -/
theorem content_eq (step : document.Step call after) :
    after.content = (document.tree? call).getD document.content := by
  cases step with
  | stays idle | queues idle | clears idle =>
    rw [tree?, idle]
    rfl
  | materializes renders =>
    rw [tree?, renders, materialize]
    cases runEdits document.strict document.queue document.content <;> rfl

/-- A strict document collects no errors. -/
theorem errors_eq_nil (step : document.Step call after) (strict : document.strict = true)
    (clean : document.errors = []) : after.errors = [] := by
  cases step with
  | stays => exact clean
  | clears => rfl
  | queues idle made =>
    rw [strict] at made
    have dropped := (call.batch_relaxed document.syntaxOf).errors_eq_nil made
    rw [enqueue, clean, dropped, List.append_nil]
  | materializes =>
    rw [materialize, strict]
    cases outcome : runEdits true document.queue document.content with
    | ok => simp [clean, runEdits_strict outcome]
    | error => exact clean

end Step

theorem content_performAll (document : Document) (calls : List Call) :
    (document.performAll calls).1.content =
      (document.trees calls).getLast?.getD document.content := by
  induction calls generalizing document with
  | nil => rfl
  | cons call rest ih =>
    rw [performAll_cons, trees, List.getLast?_append]
    refine (ih _).trans ?_
    rw [(document.perform_step call).content_eq]
    cases (document.perform call).1.trees rest |>.getLast? with
    | none => cases document.tree? call <;> rfl
    | some => rfl

theorem strict_performAll (document : Document) (calls : List Call) :
    (document.performAll calls).1.strict = document.strict := by
  induction calls generalizing document with
  | nil => rfl
  | cons call rest ih => exact (ih _).trans (document.perform_step call).strict_eq

theorem errors_performAll_strict {calls : List Call} (strict : document.strict = true)
    (clean : document.errors = []) : (document.performAll calls).1.errors = [] := by
  induction calls generalizing document with
  | nil => exact clean
  | cons call rest ih =>
    have step := document.perform_step call
    exact ih (step.strict_eq.trans strict) (step.errors_eq_nil strict clean)

/-- A lenient document never refuses to change. -/
theorem perform_lenient (lenient : document.strict = false) (edits : call.Edits) :
    ¬ (document.perform call).2.IsFailure := by
  have settled (queues : call.Queues) : ¬ (document.perform call).2.IsFailure := by
    obtain ⟨edits, outcome, -⟩ := call.batch_relaxed document.syntaxOf
    rw [document.perform_queues queues, lenient, outcome]
    exact not_false
  cases call with
  | set | unset | apply => exact settled trivial
  | materialize =>
    rw [perform, render, materialize_lenient lenient]
    exact not_false
  | json | yaml | decode | errors | takeErrors => exact edits.elim

/-- Without queued edits a document is materialized as it is. -/
theorem materialize_idle (idle : document.queue = []) :
    document.materialize = (document, .ok document.content) := by
  obtain ⟨strict, s, content, queue, errors⟩ := document
  obtain rfl : queue = [] := idle
  simp [materialize, runEdits]

/-- However a document has been used: a call that cannot queue its edits changes nothing. A queue
that cannot be materialized, which only happens in strict mode, is dropped and nothing else
changes, so that the tree that was materialized last, or else the first content, can be had again.
In strict mode no errors are collected. In lenient mode no edit and no materialization is refused,
and an edit of the queue that fails makes no difference to the tree. -/
theorem failures_leave_document (strict : Bool) (s : PathSyntax) (content : Value)
    (calls : List Call) :
    let first := start strict s content
    let document := (first.performAll calls).1
    (∀ call e, call.Queues → (document.perform call).2 = .failure e →
      (document.perform call).1 = document) ∧
    (∀ call e, call.materializes = true → document.materialize.2 = .error e →
      strict = true ∧ document.perform call = ({ document with queue := [] }, .failure e) ∧
        (document.perform call).1.materialize =
          ((document.perform call).1, .ok ((first.trees calls).getLast?.getD first.content))) ∧
    (strict = true → document.errors = []) ∧
    (strict = false → (∀ call, call.Edits → ¬ (document.perform call).2.IsFailure) ∧
      ∀ before edit after e, document.queue = before ++ edit :: after →
        edit.run (Edit.carryOut before document.content) = .error e →
        document.materialize.2 = .ok (Edit.carryOut (before ++ after) document.content) ∧
          e ∈ document.materialize.1.errors) := by
  intro first document
  have mode : document.strict = strict := strict_performAll first calls
  refine ⟨fun call e queues failed => perform_queues_failed queues failed, ?_, ?_, ?_⟩
  · intro call e materializes failed
    have outcome := perform_failed materializes failed
    refine ⟨mode.symm.trans (materialize_failed failed).1, outcome, ?_⟩
    rw [outcome, materialize_idle rfl]
    exact congrArg (_, Except.ok ·) (content_performAll first calls)
  · intro strict
    exact errors_performAll_strict strict rfl
  · intro lenient
    have lenient := mode.trans lenient
    refine ⟨fun call edits => perform_lenient lenient edits, ?_⟩
    intro before edit after e queue failed
    rw [materialize_lenient lenient, queue]
    refine ⟨?_, ?_⟩
    · rw [Edit.carryOut_append, Edit.carryOut_cons_error failed, Edit.carryOut_append]
    · simp [Edit.faults_append, Edit.faults, failed]

/-- A strict document whose root was to become a number after a name had been written, and which
is still empty. -/
theorem failures_leave_document_scalar :
    let first := start true .standard .null
    let calls := [.materialize, .set .plain [.value (.string ""), .value (.boolean true)]]
    let document := (first.performAll calls).1
    document.perform (.json .compact) = ({ document with queue := [] },
      .failure (.typeMismatch .container .boolean)) ∧
    (document.perform (.json .compact)).1.materialize =
      ((document.perform (.json .compact)).1, .ok (.object .empty)) := by
  intro first calls document
  have failed : document.materialize.2 = .error (.typeMismatch .container .boolean) := rfl
  exact ((failures_leave_document true .standard .null calls).2.1 (.json .compact) _ rfl failed).2

end Document
end PathEdit
