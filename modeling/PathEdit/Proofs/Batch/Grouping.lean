import PathEdit.Proofs.Batch.Passes

/-! Lenient batches of argument lists that are cut in two. The edits are those of the parts, and so
are the errors, up to their order: the first pass over the second part comes before the second pass
over the first one. -/
namespace PathEdit

/-- What is kept of a whole and of its two parts, and what is dropped of them in some order. -/
structure Sifted.Joins (whole front back : Sifted α) : Prop where
  kept : whole.kept = front.kept ++ back.kept
  dropped : whole.dropped.Perm (front.dropped ++ back.dropped)

theorem Sifted.joins_ofOutcomes (outcomes others : List (Except Error α)) :
    Joins (ofOutcomes (outcomes ++ others)) (ofOutcomes outcomes) (ofOutcomes others) :=
  ⟨kept_ofOutcomes_append _ _, .of_eq (dropped_ofOutcomes_append _ _)⟩

namespace Batch

/-- The edits of the pairs that a first pass kept, and the errors of both passes. -/
def passed (pairs : Sifted α) (edit : α → Except Error Edit) : Sifted Edit :=
  let edits := Sifted.ofOutcomes (pairs.kept.map edit)
  { edits with dropped := pairs.dropped ++ edits.dropped }

variable {s : PathSyntax} {policy : KeyPolicy} {front back : List Argument}

theorem build_lenient (pairs : Sifted α) (edit : α → Except Error Edit) :
    build ⟨s, false, policy⟩ pairs edit = .ok (passed pairs edit) := by
  rw [build, Sifted.sift_lenient]
  rfl

theorem joins_passed {whole front back : Sifted α} (joins : whole.Joins front back)
    (edit : α → Except Error Edit) :
    (passed whole edit).Joins (passed front edit) (passed back edit) := by
  have edits := Sifted.joins_ofOutcomes (front.kept.map edit) (back.kept.map edit)
  rw [← List.map_append, ← joins.kept] at edits
  refine ⟨edits.kept, (joins.dropped.append edits.dropped).trans ?_⟩
  -- the two middle ones of the four lists of errors change places
  simp only [passed, List.append_assoc]
  refine .append_left _ ?_
  simp only [← List.append_assoc]
  exact .append_right _ List.perm_append_comm

theorem set_lenient (arguments : List Argument) : set ⟨s, false, policy⟩ arguments =
    .ok (passed (.ofOutcomes ((Argument.pairs (.value (.object .empty)) arguments).map
      Argument.toPair)) (setEdit ⟨s, false, policy⟩)) := by
  rw [set, Argument.valuePairs, Sifted.sift_lenient]
  exact build_lenient _ _

theorem apply_lenient (arguments : List Argument) : apply ⟨s, false, policy⟩ arguments =
    .ok (passed (.ofOutcomes ((Argument.pairs (.transform ⟨0, id⟩) arguments).map
      Argument.toTransformPair)) (applyEdit ⟨s, false, policy⟩)) := by
  rw [apply, Argument.transformPairs, Sifted.sift_lenient]
  exact build_lenient _ _

/-- The batch of a whole list beside those of its parts. -/
def Cuts (whole front back : Except Error (Sifted Edit)) : Prop :=
  ∃ all first second, whole = .ok all ∧ front = .ok first ∧ back = .ok second ∧
    all.Joins first second

theorem set_append (even : front.length % 2 = 0) : Cuts (set ⟨s, false, policy⟩ (front ++ back))
    (set ⟨s, false, policy⟩ front) (set ⟨s, false, policy⟩ back) := by
  refine ⟨_, _, _, set_lenient _, set_lenient _, set_lenient _, ?_⟩
  rw [Argument.pairs_append _ even, List.map_append]
  exact joins_passed (Sifted.joins_ofOutcomes _ _) _

theorem apply_append (even : front.length % 2 = 0) :
    Cuts (apply ⟨s, false, policy⟩ (front ++ back)) (apply ⟨s, false, policy⟩ front)
      (apply ⟨s, false, policy⟩ back) := by
  refine ⟨_, _, _, apply_lenient _, apply_lenient _, apply_lenient _, ?_⟩
  rw [Argument.pairs_append _ even, List.map_append]
  exact joins_passed (Sifted.joins_ofOutcomes _ _) _

theorem unset_append (paths others : List String) :
    Cuts (unset ⟨s, false, policy⟩ (paths ++ others)) (unset ⟨s, false, policy⟩ paths)
      (unset ⟨s, false, policy⟩ others) := by
  refine ⟨_, _, _, Sifted.sift_lenient _, Sifted.sift_lenient _, Sifted.sift_lenient _, ?_⟩
  rw [List.map_append]
  exact Sifted.joins_ofOutcomes _ _

end Batch
end PathEdit
