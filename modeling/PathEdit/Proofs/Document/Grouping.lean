import Mathlib.Algebra.Order.Group.Multiset
import Mathlib.Tactic.Abel
import PathEdit.Proofs.Batch.Grouping
import PathEdit.Proofs.Document.Failure

/-! When a lenient document is materialized, and how many calls ask for its edits, makes no
difference. A document stands for the tree and the errors that it comes to; materializing keeps
these, and a batch of edits changes them in a way that splits with the batch. -/
namespace PathEdit

/-- What a lenient document comes to: a tree, and errors in no particular order. -/
structure Outlook where
  tree : Value
  errors : Multiset Error

namespace Outlook

/-- The outlook when edits have been queued, and the errors of what was dropped collected. -/
def queue (outlook : Outlook) (edits : Sifted Edit) : Outlook :=
  { tree := Edit.carryOut edits.kept outlook.tree
    errors := outlook.errors + edits.dropped + Edit.faults edits.kept outlook.tree }

theorem queue_joins {whole front back : Sifted Edit} (joins : whole.Joins front back)
    (outlook : Outlook) : outlook.queue whole = (outlook.queue front).queue back := by
  have dropped : (whole.dropped : Multiset Error) = front.dropped + back.dropped :=
    (Multiset.coe_eq_coe.mpr joins.dropped).trans (Multiset.coe_add _ _).symm
  simp only [queue, joins.kept, Edit.carryOut_append, Edit.faults_append, dropped,
    ← Multiset.coe_add, mk.injEq, true_and]
  abel

end Outlook

namespace Document

/-- The outlook of a lenient document. -/
def outlook (document : Document) : Outlook :=
  { tree := Edit.carryOut document.queue document.content
    errors := document.errors ++ Edit.faults document.queue document.content }

variable {document : Document}

theorem outlook_enqueue (document : Document) (edits : Sifted Edit) :
    (document.enqueue edits).outlook = document.outlook.queue edits := by
  simp only [outlook, enqueue, Outlook.queue, Edit.carryOut_append, Edit.faults_append,
    ← Multiset.coe_add, Outlook.mk.injEq, true_and]
  abel

theorem outlook_materialize (lenient : document.strict = false) :
    document.materialize.1.outlook = document.outlook := by
  rw [materialize_lenient lenient]
  simp [outlook, Edit.carryOut, Edit.faults]

end Document

namespace Call

/-- The outlook after the call. -/
def act (s : PathSyntax) (outlook : Outlook) (call : Call) : Outlook :=
  match call.batch s false with
  | .ok edits => outlook.queue edits
  | .error _ => outlook

/-- Calls that ask for edits, and others that ask for the same edits in smaller batches and
materialize the document in between. -/
inductive Refines : List Call → List Call → Prop
  | done : Refines [] []
  | keep (queues : call.Queues) (rest : Refines calls others) :
      Refines (call :: calls) (call :: others)
  | materialize (materializes : call.materializes = true) (rest : Refines calls others) :
      Refines calls (call :: others)
  | set {policy : KeyPolicy} {front back : List Argument} (even : front.length % 2 = 0)
      (rest : Refines (.set policy front :: .set policy back :: calls) others) :
      Refines (.set policy (front ++ back) :: calls) others
  | unset {policy : KeyPolicy} {front back : List String}
      (rest : Refines (.unset policy front :: .unset policy back :: calls) others) :
      Refines (.unset policy (front ++ back) :: calls) others
  | apply {policy : KeyPolicy} {front back : List Argument} (even : front.length % 2 = 0)
      (rest : Refines (.apply policy front :: .apply policy back :: calls) others) :
      Refines (.apply policy (front ++ back) :: calls) others

variable {call whole front back : Call} {calls others : List Call}

theorem act_cuts {s : PathSyntax} (outlook : Outlook)
    (cuts : Batch.Cuts (whole.batch s false) (front.batch s false) (back.batch s false)) :
    act s outlook whole = act s (act s outlook front) back := by
  obtain ⟨all, first, second, wholeIs, frontIs, backIs, joins⟩ := cuts
  simp only [act, wholeIs, frontIs, backIs, Outlook.queue_joins joins]

theorem act_of_materializes (s : PathSyntax) (outlook : Outlook)
    (materializes : call.materializes = true) : act s outlook call = outlook := by
  cases call with
  | materialize | json | yaml | decode =>
    simp [act, batch, Outlook.queue, Edit.carryOut, Edit.faults]
  | set | unset | apply | errors | takeErrors => cases materializes

/-- Refined calls come to the same. -/
theorem Refines.foldl_act (refines : Refines calls others) (s : PathSyntax) (outlook : Outlook) :
    calls.foldl (act s) outlook = others.foldl (act s) outlook := by
  induction refines generalizing outlook with
  | done => rfl
  | keep queues rest ih => exact ih _
  | materialize materializes rest ih =>
    rw [List.foldl_cons, act_of_materializes s outlook materializes]
    exact ih outlook
  | @set calls others policy front back even rest ih =>
    have cut : act s outlook (.set policy (front ++ back)) =
        act s (act s outlook (.set policy front)) (.set policy back) :=
      act_cuts outlook (Batch.set_append even)
    rw [List.foldl_cons, cut]
    exact ih outlook
  | @unset calls others policy front back rest ih =>
    have cut : act s outlook (.unset policy (front ++ back)) =
        act s (act s outlook (.unset policy front)) (.unset policy back) :=
      act_cuts outlook (Batch.unset_append _ _)
    rw [List.foldl_cons, cut]
    exact ih outlook
  | @apply calls others policy front back even rest ih =>
    have cut : act s outlook (.apply policy (front ++ back)) =
        act s (act s outlook (.apply policy front)) (.apply policy back) :=
      act_cuts outlook (Batch.apply_append even)
    rw [List.foldl_cons, cut]
    exact ih outlook

/-- Among refined calls none takes errors away. -/
theorem Refines.notMem (refines : Refines calls others) :
    takeErrors ∉ calls ∧ takeErrors ∉ others := by
  induction refines with
  | done => simp
  | @keep _ _ call queues rest ih =>
    have different : takeErrors ≠ call := by
      rintro rfl
      exact queues
    simpa [different] using ih
  | @materialize _ _ call materializes rest ih =>
    have different : takeErrors ≠ call := by
      rintro rfl
      cases materializes
    simpa [different] using ih
  | set even rest ih => simpa using ih
  | unset rest ih => simpa using ih
  | apply even rest ih => simpa using ih

end Call

namespace Document

variable {document : Document} {call : Call} {calls others : List Call}

theorem outlook_perform (lenient : document.strict = false) (keeps : call ≠ .takeErrors) :
    (document.perform call).1.outlook = call.act document.syntaxOf document.outlook := by
  have queued (queues : call.Queues) :
      (document.perform call).1.outlook = call.act document.syntaxOf document.outlook := by
    obtain ⟨edits, outcome, -⟩ := call.batch_relaxed document.syntaxOf
    rw [document.perform_queues queues, lenient, Call.act, outcome]
    exact document.outlook_enqueue edits
  have rendered (materializes : call.materializes = true) :
      (document.perform call).1.outlook = call.act document.syntaxOf document.outlook := by
    rw [Call.act_of_materializes _ _ materializes, document.perform_materializes materializes,
      outlook_materialize lenient]
  cases call with
  | set | unset | apply => exact queued trivial
  | materialize | json | yaml | decode => exact rendered rfl
  | errors => simp [perform, Call.act, Call.batch, Outlook.queue, Edit.carryOut, Edit.faults]
  | takeErrors => exact absurd rfl keeps

theorem outlook_performAll (lenient : document.strict = false) (keeps : .takeErrors ∉ calls) :
    (document.performAll calls).1.outlook =
      calls.foldl (Call.act document.syntaxOf) document.outlook := by
  induction calls generalizing document with
  | nil => rfl
  | cons call rest ih =>
    obtain ⟨first, keeps⟩ := not_or.mp (List.mem_cons.not.mp keeps)
    have step := document.perform_step call
    rw [performAll_cons, List.foldl_cons, ← outlook_perform lenient (Ne.symm first),
      ← step.syntaxOf_eq]
    exact ih (step.strict_eq.trans lenient) keeps

/-- The tree that a lenient document is materialized to at the end, and the errors that it has
collected then, up to their order, depend neither on materializing it in between nor on how the
edits are divided into calls. Once more materialized it does not change. -/
theorem materialize_refines (lenient : document.strict = false)
    (refines : Call.Refines calls others) :
    let once := (document.performAll calls).1.materialize
    let often := (document.performAll others).1.materialize
    (∃ tree, once.2 = .ok tree ∧ often.2 = .ok tree) ∧ often.1.errors.Perm once.1.errors ∧
      once.1.materialize = once := by
  intro once often
  obtain ⟨first, second⟩ := refines.notMem
  have same : (document.performAll calls).1.outlook = (document.performAll others).1.outlook := by
    rw [outlook_performAll lenient first, outlook_performAll lenient second, refines.foldl_act]
  have onceIs := materialize_lenient ((document.strict_performAll calls).trans lenient)
  have oftenIs := materialize_lenient ((document.strict_performAll others).trans lenient)
  obtain ⟨tree, errors⟩ := Outlook.mk.inj same
  refine ⟨⟨_, congrArg Prod.snd onceIs, ?_⟩, ?_, ?_⟩
  · exact (congrArg Prod.snd oftenIs).trans (congrArg Except.ok tree.symm)
  · have collected := (Multiset.coe_eq_coe.mp errors).symm
    simpa only [once, often, onceIs, oftenIs] using collected
  · simp only [once, onceIs]
    exact materialize_idle rfl

/-- An array in place of the root, and a null where a path should be: at once, or one after the
other with a look at the document in between. -/
theorem materialize_refines_halves :
    let document := start false .standard .null
    let front : List Argument := [.value (.string ""), .value (.array [])]
    let back : List Argument := [.value .null, .value .null]
    let once := (document.performAll [.set .plain (front ++ back)]).1.materialize
    let often := (document.performAll [.set .plain front, .yaml, .set .plain back]).1.materialize
    once.2 = often.2 ∧ often.1.errors.Perm once.1.errors := by
  intro document front back once often
  have even : front.length % 2 = 0 := by decide
  have refines : Call.Refines [.set .plain (front ++ back)]
      [.set .plain front, .yaml, .set .plain back] :=
    .set even (.keep trivial (.materialize rfl (.keep trivial .done)))
  obtain ⟨⟨tree, first, second⟩, errors, -⟩ :=
    materialize_refines (show document.strict = false from rfl) refines
  exact ⟨first.trans second.symm, errors⟩

end Document
end PathEdit
