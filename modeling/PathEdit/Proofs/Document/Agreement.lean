import PathEdit.Document
import PathEdit.Proofs.Batch.Passes

/-! A strict and a lenient document that are asked the same agree until the strict one fails, which
is when the lenient one collects its first error. -/
namespace PathEdit

/-- Whether a call changes or materializes the document, and leaves its errors where they are. -/
def Call.Edits : Call → Prop
  | .set .. | .unset .. | .apply .. | .materialize => True
  | .json _ | .yaml | .decode _ | .errors | .takeErrors => False

def Reply.IsFailure : Reply → Prop
  | .failure _ => True
  | .done | .value _ | .text _ | .errors _ => False

namespace Document

/-- The same document in strict mode. -/
def tightened (document : Document) : Document := { document with strict := true }

/-- The document after some calls, and its replies. -/
def performAll (document : Document) : List Call → Document × List Reply
  | [] => (document, [])
  | call :: rest =>
    let (after, reply) := document.perform call
    let (last, replies) := after.performAll rest
    (last, reply :: replies)

theorem performAll_cons {document : Document} {call : Call} {rest : List Call} :
    document.performAll (call :: rest) =
      (((document.perform call).1.performAll rest).1,
        (document.perform call).2 :: ((document.perform call).1.performAll rest).2) := rfl

theorem runEdits_relaxed (edits : List Edit) (root : Value) :
    Relaxed Prod.snd (runEdits true edits root) (runEdits false edits root) := by
  induction edits generalizing root with
  | nil => exact ⟨_, rfl, rfl⟩
  | cons edit rest ih =>
    cases outcome : edit.run root with
    | ok after => simpa [runEdits, outcome] using ih after
    | error e =>
      obtain ⟨⟨after, errors⟩, lenient, -⟩ := ih root
      refine ⟨(after, e :: errors), ?_, ?_⟩
      · simp [runEdits, outcome, lenient, Except.map]
      · simp [runEdits, outcome, Error.firstOr]

/-- One call, asked of a lenient document without errors and of the same document in strict mode:
they do the same, or the strict one fails with the first error that the lenient one collects. -/
inductive Parallel : (strict lenient : Document × Reply) → Prop where
  | same (mode : after.strict = false) (clean : after.errors = []) (success : ¬ reply.IsFailure) :
      Parallel (after.tightened, reply) (after, reply)
  | parted (mode : after.strict = false) (added : after.errors = e :: rest) :
      Parallel (kept, .failure e) (after, reply)

variable {document : Document} {call : Call}

theorem settle_parallel {strict lenient : Except Error (Sifted Edit)}
    (mode : document.strict = false) (clean : document.errors = [])
    (relaxed : Relaxed Sifted.dropped strict lenient) :
    Parallel (document.tightened.settle (strict.map document.tightened.enqueue))
      (document.settle (lenient.map document.enqueue)) := by
  obtain ⟨⟨kept, dropped⟩, rfl, rfl⟩ := relaxed
  cases dropped with
  | nil =>
    have still : (document.enqueue ⟨kept, []⟩).errors = [] := by simp [enqueue, clean]
    change Parallel ((document.enqueue ⟨kept, []⟩).tightened, .done) (_, .done)
    exact .same mode still not_false
  | cons e rest =>
    have added : (document.enqueue ⟨kept, e :: rest⟩).errors = e :: rest := by simp [enqueue, clean]
    exact .parted mode added

theorem render_parallel (mode : document.strict = false) (clean : document.errors = []) :
    Parallel (document.tightened.render .value) (document.render .value) := by
  obtain ⟨⟨root, errors⟩, lenient, strict⟩ := runEdits_relaxed document.queue document.content
  have outcome : document.render .value =
      (⟨false, document.syntaxOf, root, [], errors⟩, .value root) := by
    simp [render, materialize, mode, lenient, clean]
  rw [outcome, render, materialize]
  simp only [tightened, strict, clean]
  cases errors with
  | nil =>
    change Parallel (tightened ⟨false, document.syntaxOf, root, [], []⟩, .value root) _
    exact .same rfl rfl not_false
  | cons e rest => exact .parted rfl rfl

theorem perform_parallel (mode : document.strict = false) (clean : document.errors = [])
    (edits : call.Edits) : Parallel (document.tightened.perform call) (document.perform call) := by
  obtain ⟨strict, s, content, queue, errors⟩ := document
  obtain rfl : strict = false := mode
  cases call with
  | set policy arguments => exact settle_parallel rfl clean (Batch.set_relaxed s policy arguments)
  | unset policy paths => exact settle_parallel rfl clean (Batch.unset_relaxed s policy paths)
  | apply policy arguments =>
    exact settle_parallel rfl clean (Batch.apply_relaxed s policy arguments)
  | materialize => exact render_parallel rfl clean
  | json | yaml | decode | errors | takeErrors => exact edits.elim

/-- No call takes collected errors away. -/
theorem errors_perform (document : Document) (edits : call.Edits) :
    ∃ more, (document.perform call).1.errors = document.errors ++ more := by
  have settles (outcome : Except Error (Sifted Edit)) :
      ∃ more, (document.settle (outcome.map document.enqueue)).1.errors =
        document.errors ++ more := by
    cases outcome with
    | ok edits => exact ⟨edits.dropped, rfl⟩
    | error e => exact ⟨[], (List.append_nil _).symm⟩
  cases call with
  | set policy arguments => exact settles _
  | unset policy paths => exact settles _
  | apply policy arguments => exact settles _
  | materialize =>
    rw [perform, render, materialize]
    cases runEdits document.strict document.queue document.content with
    | ok outcome => exact ⟨outcome.2, rfl⟩
    | error e => exact ⟨[], (List.append_nil _).symm⟩
  | json | yaml | decode | errors | takeErrors => exact edits.elim

theorem errors_performAll {calls : List Call} (found : document.errors ≠ [])
    (edits : ∀ call ∈ calls, call.Edits) : (document.performAll calls).1.errors ≠ [] := by
  induction calls generalizing document with
  | nil => exact found
  | cons call rest ih =>
    obtain ⟨first, edits⟩ := List.forall_mem_cons.mp edits
    obtain ⟨more, grown⟩ := document.errors_perform first
    have still : (document.perform call).1.errors ≠ [] := by
      rw [grown]
      simp [found]
    exact ih still edits

/-- A lenient document that has collected no error in some calls, and the same document in strict
mode, which has done the same. -/
structure Together (document : Document) (calls : List Call) : Prop where
  mode : (document.performAll calls).1.strict = false
  clean : (document.performAll calls).1.errors = []
  success : ∀ reply ∈ (document.performAll calls).2, ¬ reply.IsFailure
  same : document.tightened.performAll calls =
    ((document.performAll calls).1.tightened, (document.performAll calls).2)

/-- Of the two runs either none or both have gone wrong. -/
theorem performAll_together {calls : List Call} (mode : document.strict = false)
    (clean : document.errors = []) (edits : ∀ call ∈ calls, call.Edits) :
    document.Together calls ∨ (document.performAll calls).1.errors ≠ [] ∧
      ∃ reply ∈ (document.tightened.performAll calls).2, reply.IsFailure := by
  induction calls generalizing document with
  | nil => exact .inl ⟨mode, clean, (nomatch ·, ·), rfl⟩
  | cons call rest ih =>
    obtain ⟨first, edits⟩ := List.forall_mem_cons.mp edits
    have step := perform_parallel mode clean first
    generalize strict : document.tightened.perform call = left, lenient : document.perform call =
      right at step
    cases step with
    | @same after reply mode clean success =>
      rcases ih mode clean edits with together | ⟨found, reply, member, failure⟩
      · refine .inl ⟨?_, ?_, ?_, ?_⟩
        · rw [performAll_cons, lenient]
          exact together.mode
        · rw [performAll_cons, lenient]
          exact together.clean
        · rw [performAll_cons, lenient]
          exact List.forall_mem_cons.mpr ⟨success, together.success⟩
        · rw [performAll_cons, performAll_cons, strict, lenient, together.same]
      · rw [performAll_cons, performAll_cons, strict, lenient]
        exact .inr ⟨found, reply, List.mem_cons_of_mem _ member, failure⟩
    | parted mode added =>
      rw [performAll_cons, performAll_cons, strict, lenient]
      exact .inr ⟨errors_performAll (by simp [added]) edits, _, List.mem_cons_self, trivial⟩

/-- Two documents of the same content, one strict and one lenient, agree under the same calls as
long as the strict one has not failed; and a call is the first one on which the strict document
fails exactly when it is the first one by which the lenient one collects an error, the same one
first. -/
theorem strict_agrees_with_lenient (s : PathSyntax) (content : Value) {calls : List Call}
    (edits : ∀ call ∈ calls, call.Edits) :
    let strict := (start true s content).performAll calls
    let lenient := (start false s content).performAll calls
    ((∀ reply ∈ strict.2, ¬ reply.IsFailure) → strict.1.content = lenient.1.content ∧
      strict.1.queue = lenient.1.queue ∧ strict.2 = lenient.2 ∧ lenient.1.errors = []) ∧
    ∀ (call : Call) (e : Error), call.Edits →
      (((∀ reply ∈ strict.2, ¬ reply.IsFailure) ∧ (strict.1.perform call).2 = .failure e) ↔
        lenient.1.errors = [] ∧ ∃ rest, (lenient.1.perform call).1.errors = e :: rest) := by
  intro strict lenient
  have runs : Together (start false s content) calls ∨ lenient.1.errors ≠ [] ∧
      ∃ reply ∈ strict.2, reply.IsFailure := performAll_together rfl rfl edits
  rcases runs with together | ⟨found, reply, member, failure⟩
  · have same : strict = (lenient.1.tightened, lenient.2) := together.same
    rw [same]
    refine ⟨fun _ => ⟨rfl, rfl, rfl, together.clean⟩, fun call e first => ?_⟩
    have step : Parallel (lenient.1.tightened.perform call) (lenient.1.perform call) :=
      perform_parallel together.mode together.clean first
    refine Iff.trans (and_iff_right together.success)
      (Iff.trans ?_ (and_iff_right together.clean).symm)
    generalize lenient.1.tightened.perform call = left, lenient.1.perform call = right at step
    cases step with
    | @same after reply mode clean success =>
      constructor
      · intro equal
        subst equal
        exact absurd trivial success
      · intro collected
        obtain ⟨rest, added⟩ := collected
        simp [clean] at added
    | parted mode added => simp [added]
  · refine ⟨fun success => absurd failure (success reply member), fun call e _ => ?_⟩
    constructor
    · intro failed
      obtain ⟨success, -⟩ := failed
      exact absurd failure (success reply member)
    · intro collected
      obtain ⟨clean, -⟩ := collected
      exact absurd clean found

theorem strict_agrees_with_lenient_misplaced :
    let strict := (start true .standard .null).performAll [.materialize]
    let lenient := (start false .standard .null).performAll [.materialize]
    strict.1.content = lenient.1.content ∧
      ∃ rest, (lenient.1.perform (.set .plain [.value .null])).1.errors =
        .invalidPathType (Argument.value .null).describe :: rest := by
  intro strict lenient
  have edits : ∀ call ∈ [Call.materialize], call.Edits := by simp [Call.Edits]
  have success : ∀ reply ∈ strict.2, ¬ reply.IsFailure := by
    simp [strict, performAll, perform, render, materialize, start, runEdits, Reply.IsFailure]
  have agrees := strict_agrees_with_lenient .standard .null edits
  refine ⟨(agrees.1 success).1, ?_⟩
  have failure : (strict.1.perform (.set .plain [.value .null])).2 =
      .failure (.invalidPathType (Argument.value .null).describe) := rfl
  exact ((agrees.2 (.set .plain [.value .null]) _ trivial).mp ⟨success, failure⟩).2

end Document
end PathEdit
