import PathEdit.Proofs.Batch.Origin
import PathEdit.Proofs.Document.Failure
import PathEdit.Proofs.Edit.Root

/-! The root of a document. However a document is made and used, its content is a container. The kind
of the content changes only where a queue is materialized that replaces the root by a container of
the other kind, as a call has asked for before. -/
namespace PathEdit

namespace Call

/-- Whether the call writes the value at a path that becomes empty, which replaces the root. -/
def Replaces (value : Value) : Call → Prop
  | .set policy arguments =>
    ∃ path, policy.qualify path = "" ∧
      (.value (.string path), .value value) ∈ Argument.pairs (.value (.object .empty)) arguments
  | .unset .. | .apply .. | .materialize | .json _ | .yaml | .decode _ | .errors | .takeErrors =>
    False

/-- No other call asks for an edit without steps. -/
theorem replaces_of_batch {s : PathSyntax} {strict : Bool} {call : Call} {edits : Sifted Edit}
    {edit : Edit} (made : call.batch s strict = .ok edits) (member : edit ∈ edits.kept)
    (whole : edit.path = []) : ∃ value, edit = ⟨[], .set value⟩ ∧ call.Replaces value := by
  cases call with
  | set policy arguments =>
    obtain ⟨⟨path, content⟩, given, outcome⟩ := Batch.exists_pair_of_set made member
    obtain ⟨empty, value, rfl, operation⟩ := (Batch.setEdit_ok outcome).2 whole
    obtain ⟨steps, _⟩ := edit
    cases whole
    cases operation
    exact ⟨value, rfl, path, empty, given⟩
  | unset policy paths =>
    obtain ⟨path, -, outcome⟩ := Batch.exists_path_of_unset made member
    exact absurd whole (Batch.edit_ok outcome).1
  | apply policy arguments =>
    obtain ⟨pair, -, outcome⟩ := Batch.exists_pair_of_apply made member
    exact absurd whole (Batch.edit_ok outcome).1
  | materialize | json | yaml | decode | errors | takeErrors =>
    cases made
    cases member

end Call

namespace Document

/-- A document as it can be made, before any call. -/
inductive Fresh : Document → Prop
  | ofValue (content : Value) : Fresh (ofValue content)
  | ofValueWith {content : Value} (made : ofValueWith options content = .ok document) :
    Fresh document
  | ofRecord (made : ofRecord options record = .ok document) : Fresh document

/-- A root that is a container, under edits that go through steps or replace it by a value that one
of the calls has asked for. -/
structure Rooted (document : Document) (calls : List Call) : Prop where
  container : document.content.isContainer = true
  asked : ∀ edit ∈ document.queue, edit.path = [] →
    ∃ value, edit = ⟨[], .set value⟩ ∧ ∃ call ∈ calls, call.Replaces value

variable {document after : Document} {call : Call} {calls done : List Call}

theorem isContainer_start (strict : Bool) (s : PathSyntax) (content : Value) :
    (start strict s content).content.isContainer = true := by
  rw [start]
  split
  · assumption
  · rfl

theorem Fresh.eq_start (fresh : document.Fresh) :
    ∃ strict s content, document = start strict s content := by
  cases fresh with
  | ofValue content => exact ⟨_, _, content, rfl⟩
  | ofValueWith made =>
    obtain ⟨s, -, same⟩ := ofValueWith_ok made
    exact ⟨_, s, _, same⟩
  | ofRecord made =>
    obtain ⟨value, -, made⟩ := exists_of_bind_ok made
    split at made
    · obtain ⟨s, -, same⟩ := ofValueWith_ok made
      exact ⟨_, s, value, same⟩
    · cases made

theorem Fresh.rooted (fresh : document.Fresh) : document.Rooted [] := by
  obtain ⟨strict, s, content, rfl⟩ := fresh.eq_start
  exact ⟨isContainer_start strict s content, fun _ queued => absurd queued List.not_mem_nil⟩

/-- A run leaves the kind of the root as it is, or as an edit without steps has made it. -/
theorem kind_runEdits {strict : Bool} {edits : List Edit} {root after : Value} {errors : List Error}
    (outcome : runEdits strict edits root = .ok (after, errors)) :
    after.kind = root.kind ∨ ∃ operation before, ⟨[], operation⟩ ∈ edits ∧
      after.kind = (Operation.onRoot operation before).kind := by
  refine runEdits_keeps (motive := fun value => value.kind = root.kind ∨ ∃ operation before,
    ⟨[], operation⟩ ∈ edits ∧ value.kind = (Operation.onRoot operation before).kind)
    (fun edit member before next same success => ?_) (.inl rfl) outcome
  by_cases whole : edit.path = []
  · obtain ⟨steps, operation⟩ := edit
    obtain rfl : steps = [] := whole
    exact .inr ⟨operation, before, member, congrArg _ (Edit.run_replacing operation success).1⟩
  · rwa [Edit.kind_run whole success]

namespace Rooted

theorem materialize (rooted : document.Rooted calls) : document.materialize.1.Rooted calls := by
  rw [Document.materialize]
  split
  · rename_i root errors outcome
    refine ⟨?_, fun _ queued => absurd queued List.not_mem_nil⟩
    exact runEdits_keeps (fun _ _ _ _ container success => Edit.isContainer_run container success)
      rooted.container outcome
  · exact ⟨rooted.container, fun _ queued => absurd queued List.not_mem_nil⟩

/-- What has been asked for stays asked for by longer lists of calls. -/
theorem mono (rooted : document.Rooted calls) {more : List Call} (longer : calls ⊆ more) :
    document.Rooted more := by
  refine ⟨rooted.container, fun edit queued whole => ?_⟩
  obtain ⟨value, same, asking, member, replaces⟩ := rooted.asked edit queued whole
  exact ⟨value, same, asking, longer member, replaces⟩

theorem step (rooted : document.Rooted calls) (step : document.Step call after) :
    after.Rooted (calls ++ [call]) := by
  have kept := rooted.mono (List.subset_append_left calls [call])
  cases step with
  | stays => exact kept
  | clears => exact ⟨kept.container, kept.asked⟩
  | materializes => exact kept.materialize
  | queues idle made =>
    refine ⟨kept.container, fun edit queued whole => ?_⟩
    rcases List.mem_append.mp queued with old | new
    · exact kept.asked edit old whole
    · obtain ⟨value, same, replaces⟩ := Call.replaces_of_batch made new whole
      exact ⟨value, same, call, List.mem_concat_self, replaces⟩

theorem performAll (rooted : document.Rooted done) (calls : List Call) :
    (document.performAll calls).1.Rooted (done ++ calls) := by
  induction calls generalizing document done with
  | nil => rwa [List.append_nil]
  | cons call rest ih =>
    have next := ih (rooted.step (document.perform_step call))
    rwa [List.append_assoc] at next

/-- Where a call changes the kind of the content, it materializes a replacement of the root. -/
theorem replaced (rooted : document.Rooted calls) (step : document.Step call after)
    (changed : after.content.kind ≠ document.content.kind) :
    call.materializes = true ∧ document.materialize.2 = .ok after.content ∧
      ∃ value, ⟨[], .set value⟩ ∈ document.queue ∧ value.isContainer = true ∧
        value.kind = after.content.kind ∧ ∃ asking ∈ calls, asking.Replaces value := by
  have container := (rooted.step step).container
  cases step with
  | stays | queues | clears => exact absurd rfl changed
  | materializes renders =>
    cases outcome : runEdits document.strict document.queue document.content with
    | error => exact absurd (by rw [Document.materialize, outcome]) changed
    | ok result =>
      rw [Document.materialize, outcome] at changed container ⊢
      refine ⟨renders, rfl, ?_⟩
      rcases kind_runEdits outcome with same | ⟨operation, before, queued, same⟩
      · exact absurd same changed
      · obtain ⟨value, whole, asked⟩ := rooted.asked _ queued rfl
        cases whole
        refine ⟨value, queued, ?_, same.symm, asked⟩
        rw [Value.isContainer_iff] at container ⊢
        exact same ▸ container

end Rooted

/-- However a document has been made and used, its content is a container. A call that changes the
kind of the content is one that materializes, and the queue replaces the root by a container of that
kind, a value that a call has written at a path which becomes empty. Edits through steps leave the
kind of every root as it is. -/
theorem performAll_keeps_root (fresh : document.Fresh) (calls : List Call) :
    let before := (document.performAll calls).1
    before.content.isContainer = true ∧
    (∀ call, let after := (before.perform call).1
      after.content.kind ≠ before.content.kind →
        call.materializes = true ∧ before.materialize.2 = .ok after.content ∧
          ∃ value, ⟨[], .set value⟩ ∈ before.queue ∧ value.isContainer = true ∧
            value.kind = after.content.kind ∧ ∃ asking ∈ calls, asking.Replaces value) ∧
    ∀ (edit : Edit) root after,
      edit.path ≠ [] → edit.run root = .ok after → after.kind = root.kind := by
  intro before
  have rooted : before.Rooted calls := fresh.rooted.performAll calls
  refine ⟨rooted.container, ?_, fun edit root after steps outcome => Edit.kind_run steps outcome⟩
  intro call after changed
  exact rooted.replaced (before.perform_step call) changed

/-- An array written at the empty path of an object, which stays one until it is rendered. -/
theorem performAll_keeps_root_array :
    let calls := [.set .plain [.value (.string ""), .value (.array [])]]
    let before := ((ofValue .null).performAll calls).1
    let after := (before.perform .yaml).1
    before.content.kind = .object ∧ after.content.kind = .array ∧
      ∃ value, ⟨[], .set value⟩ ∈ before.queue ∧ value.isContainer = true ∧
        value.kind = .array ∧ ∃ asking ∈ calls, asking.Replaces value := by
  intro calls before after
  have first : before.content.kind = .object := rfl
  have second : after.content.kind = .array := by decide +kernel
  have changed : after.content.kind ≠ before.content.kind := by
    rw [first, second]
    decide
  obtain ⟨-, replaced, -⟩ := performAll_keeps_root (.ofValue .null) calls
  obtain ⟨-, -, found⟩ := replaced .yaml changed
  exact ⟨first, second, second ▸ found⟩

end Document
end PathEdit
