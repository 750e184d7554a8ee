import PathEdit.Proofs.Batch.Passes
import PathEdit.Proofs.Path.Steps

/-! Where the edits of a batch come from. Each one is the edit of a pair of arguments, or of a path,
and goes through the steps that were read. Only a value at a path that becomes empty makes an edit
without steps. -/
namespace PathEdit

namespace Argument

variable {missing : Argument} {arguments : List Argument} {pair : Argument × Argument}

/-- Both elements of a pair are arguments, or else the second one is what was missing. -/
theorem mem_of_mem_pairs (member : pair ∈ pairs missing arguments) :
    pair.1 ∈ arguments ∧ (pair.2 ∈ arguments ∨ pair.2 = missing) := by
  induction arguments using pairs.induct with
  | case1 => cases member
  | case2 path =>
    obtain rfl := List.mem_singleton.mp member
    exact ⟨List.mem_singleton_self _, .inr rfl⟩
  | case3 path content rest ih =>
    rcases List.mem_cons.mp member with rfl | later
    · exact ⟨List.mem_cons_self, .inl (List.mem_cons_of_mem _ List.mem_cons_self)⟩
    · obtain ⟨first, second⟩ := ih later
      refine ⟨List.mem_cons_of_mem _ (List.mem_cons_of_mem _ first), second.imp_left fun held => ?_⟩
      exact List.mem_cons_of_mem _ (List.mem_cons_of_mem _ held)

theorem eq_of_path? {argument : Argument} {path : String} (found : argument.path? = some path) :
    argument = .value (.string path) := by
  cases argument with
  | value v => rw [Value.eq_string_of_string? found]
  | transform t => cases found

theorem toPair_ok {found : Pair Argument} (success : toPair pair = .ok found) :
    pair = (.value (.string found.path), found.content) := by
  rw [toPair] at success
  split at success
  · rename_i path read
    cases success
    exact Prod.ext (eq_of_path? read) rfl
  · cases success

theorem toTransformPair_ok {found : Pair Transform} (success : toTransformPair pair = .ok found) :
    pair = (.value (.string found.path), .transform found.content) := by
  rw [toTransformPair] at success
  split at success
  · cases success
  · rename_i path read
    split at success
    · rename_i t content
      cases success
      exact Prod.ext (eq_of_path? read) content
    · cases success

end Argument

namespace Batch

variable {batch : Batch} {edits : Sifted Edit} {edit : Edit} {arguments : List Argument}
  {paths : List String}

theorem edit_ok {path : String} {operation : Operation}
    (success : batch.edit path operation = .ok edit) :
    edit.path ≠ [] ∧ edit.operation = operation := by
  obtain ⟨steps, read, rfl⟩ := exists_of_map_ok success
  exact ⟨PathSyntax.ne_nil_of_parse read, rfl⟩

/-- An edit that writes goes through steps, or else its value replaces the root. -/
theorem setEdit_ok {pair : Pair Argument} (success : batch.setEdit pair = .ok edit) :
    edit.operation = pair.content.operation ∧
      (edit.path = [] → batch.policy.qualify pair.path = "" ∧
        ∃ value, pair.content = .value value ∧ edit.operation = .set value) := by
  rw [setEdit] at success
  split at success
  · rename_i empty
    split at success
    · rename_i value content
      cases success
      rw [content]
      exact ⟨rfl, fun _ => ⟨String.isEmpty_iff.mp empty, value, rfl, rfl⟩⟩
    · cases success
  · obtain ⟨steps, operation⟩ := edit_ok success
    exact ⟨operation, fun none => absurd none steps⟩

theorem exists_pair_of_set (success : batch.set arguments = .ok edits)
    (member : edit ∈ edits.kept) : ∃ pair : Pair Argument,
      (.value (.string pair.path), pair.content) ∈
          Argument.pairs (.value (.object .empty)) arguments ∧
        batch.setEdit pair = .ok edit := by
  obtain ⟨pairs, first, success⟩ := exists_of_bind_ok success
  obtain ⟨kept, second, same⟩ := exists_of_bind_ok success
  cases same
  obtain ⟨pair, held, outcome⟩ := List.mem_map.mp (Sifted.mem_of_sift second member)
  obtain ⟨given, among, read⟩ := List.mem_map.mp (Sifted.mem_of_sift first held)
  exact ⟨pair, Argument.toPair_ok read ▸ among, outcome⟩

theorem exists_pair_of_apply (success : batch.apply arguments = .ok edits)
    (member : edit ∈ edits.kept) : ∃ pair : Pair Transform,
      (.value (.string pair.path), .transform pair.content) ∈
          Argument.pairs (.transform ⟨0, id⟩) arguments ∧
        batch.applyEdit pair = .ok edit := by
  obtain ⟨pairs, first, success⟩ := exists_of_bind_ok success
  obtain ⟨kept, second, same⟩ := exists_of_bind_ok success
  cases same
  obtain ⟨pair, held, outcome⟩ := List.mem_map.mp (Sifted.mem_of_sift second member)
  obtain ⟨given, among, read⟩ := List.mem_map.mp (Sifted.mem_of_sift first held)
  exact ⟨pair, Argument.toTransformPair_ok read ▸ among, outcome⟩

theorem exists_path_of_unset (success : batch.unset paths = .ok edits)
    (member : edit ∈ edits.kept) : ∃ path ∈ paths, batch.edit path .unset = .ok edit :=
  List.mem_map.mp (Sifted.mem_of_sift success member)

/-- The edits of a list of arguments do what its arguments say. -/
theorem operation_of_set (success : batch.set arguments = .ok edits)
    (member : edit ∈ edits.kept) : ∃ argument : Argument,
      (argument ∈ arguments ∨ argument = .value (.object .empty)) ∧
        edit.operation = argument.operation := by
  obtain ⟨pair, given, outcome⟩ := exists_pair_of_set success member
  exact ⟨pair.content, (Argument.mem_of_mem_pairs given).2, (setEdit_ok outcome).1⟩

/-- The edits of a list of paths only remove. -/
theorem operation_of_unset (success : batch.unset paths = .ok edits)
    (member : edit ∈ edits.kept) : edit.operation = .unset := by
  obtain ⟨path, -, outcome⟩ := exists_path_of_unset success member
  exact (edit_ok outcome).2

end Batch
end PathEdit
