import PathEdit.Proofs.Regex.Language
import PathEdit.Regex.Expression

/-! The groups of an expression are among those of the expressions it is made of. -/
namespace PathEdit.Regex

namespace Pattern

variable {p : Pattern} {name : String}

theorem groups_times_subset (fuel count : Nat) : (p.times fuel count).groups ⊆ p.groups := by
  induction fuel generalizing count with
  | zero => exact List.nil_subset _
  | succ fuel ih =>
    unfold times
    split
    · exact List.nil_subset _
    · split
      · exact List.Subset.refl _
      · exact List.append_subset.mpr ⟨ih _, ih _⟩

theorem groups_optional (greedy : Bool) : (p.optional greedy).groups = p.groups := by
  cases greedy <;> simp [optional, groups]

theorem groups_upTo_subset (greedy : Bool) (count : Nat) :
    (p.upTo greedy count).groups ⊆ p.groups := by
  induction count with
  | zero => exact List.nil_subset _
  | succ count ih =>
    rw [upTo, groups_optional]
    exact List.append_subset.mpr ⟨List.Subset.refl _, ih⟩

theorem groups_repeated_subset (greedy nullable : Bool) (low : Nat) (high : Option Nat) :
    (p.repeated greedy nullable low high).groups ⊆ p.groups := by
  unfold repeated
  split
  · split
    · exact groups_times_subset _ _
    · exact List.append_subset.mpr ⟨groups_times_subset _ _, groups_upTo_subset _ _⟩
  · split
    · unfold anyTimes
      split
      · rw [groups_optional]
        exact List.Subset.refl _
      · exact List.Subset.refl _
    · exact List.append_subset.mpr ⟨groups_times_subset _ _, List.Subset.refl _⟩

end Pattern

namespace Expression

/-- The names of the groups in an expression. -/
def groups (e : Expression) : List String := e.pattern.groups

theorem flatMap_groups_subset {es fs : List Expression} (subset : es ⊆ fs) :
    es.flatMap groups ⊆ fs.flatMap groups := by
  intro name present
  obtain ⟨e, inside, named⟩ := List.mem_flatMap.mp present
  exact List.mem_flatMap.mpr ⟨e, subset inside, named⟩

theorem groups_textPattern (chars : List Char) : (textPattern chars).groups = [] := by
  induction chars using textPattern.induct with
  | case1 => rfl
  | case2 => rfl
  | case3 c rest _ ih => simpa [textPattern, Pattern.groups] using ih

theorem groups_sequence (es : List Expression) : (sequence es).groups = es.flatMap groups := by
  induction es with
  | nil => rfl
  | cons e es ih =>
    cases es with
    | nil => simp [groups, pattern, sequencePattern]
    | cons => simpa [groups, pattern, sequencePattern, Pattern.groups] using ih

theorem groups_choice (es : List Expression) : (choice es).groups = es.flatMap groups := by
  induction es with
  | nil => rfl
  | cons e es ih =>
    cases es with
    | nil => simp [groups, pattern, choicePattern]
    | cons => simpa [groups, pattern, choicePattern, Pattern.groups] using ih

theorem groups_text (chars : List Char) : (text chars).groups = [] := groups_textPattern chars

theorem groups_parts (e : Expression) : e.parts.flatMap groups = e.groups := by
  cases e with
  | empty => rfl
  | sequence parts => exact (groups_sequence parts).symm
  | _ => exact List.flatMap_singleton _ _

theorem groups_options (e : Expression) : e.options.flatMap groups = e.groups := by
  cases e with
  | choice options => exact (groups_choice options).symm
  | _ => exact List.flatMap_singleton _ _

theorem groups_joinTexts (es : List Expression) :
    (joinTexts es).flatMap groups = es.flatMap groups := by
  induction es using joinTexts.induct with
  | case1 => rfl
  | case2 a rest b others joined ih =>
    rw [joined, List.flatMap_cons, groups_text] at ih
    rw [joinTexts, joined, List.flatMap_cons, List.flatMap_cons, groups_text, groups_text, ← ih]
    rfl
  | case3 a rest other ih =>
    rw [joinTexts]
    split
    · exact absurd ‹_› (other _ _)
    · rw [List.flatMap_cons, List.flatMap_cons, ih]
  | case4 e rest other ih =>
    rw [joinTexts.eq_3 e rest other, List.flatMap_cons, List.flatMap_cons, ih]

theorem groups_ofSequence (es : List Expression) : (ofSequence es).groups = es.flatMap groups := by
  have flat : (joinTexts (es.flatMap parts)).flatMap groups = es.flatMap groups := by
    rw [groups_joinTexts, List.flatMap_assoc]
    simp only [groups_parts]
  rw [← flat, ofSequence]
  split
  · simp [*, groups, pattern, Pattern.groups]
  · simp [*]
  · exact groups_sequence _

theorem groups_ofSet (set : CharSet) : (ofSet set).groups = [] := by
  unfold ofSet
  split <;> rfl

theorem groups_ofOptions_subset (es : List Expression) :
    (ofOptions es).groups ⊆ es.flatMap groups := by
  have flat : (es.flatMap options).flatMap groups = es.flatMap groups := by
    rw [List.flatMap_assoc]
    simp only [groups_options]
  rw [← flat, ofOptions]
  split
  · simp [*]
  · split
    · rw [groups_ofSet]
      exact List.nil_subset _
    · rw [groups_choice]
      exact List.Subset.refl _

theorem sharedStart_sublist (as bs : List Expression) : (sharedStart as bs).Sublist as := by
  induction as generalizing bs with
  | nil => exact List.Sublist.refl _
  | cons a as ih =>
    cases bs with
    | nil => exact List.nil_sublist _
    | cons b bs =>
      rw [sharedStart]
      split
      · exact (ih bs).cons_cons a
      · exact List.nil_sublist _

theorem groups_commonStart_subset (es : List Expression) :
    (commonStart es).flatMap groups ⊆ es.flatMap groups := by
  unfold commonStart
  split
  · exact List.nil_subset _
  · simp [groups_sequence]
  · rename_i parts rest _
    rw [List.flatMap_cons, groups_sequence]
    refine List.Subset.trans ?_ (List.subset_append_left _ _)
    exact flatMap_groups_subset (sharedStart_sublist _ _).subset
  · exact List.nil_subset _

theorem groups_dropParts_subset (count : Nat) (e : Expression) :
    (e.dropParts count).groups ⊆ e.groups := by
  cases e with
  | sequence parts =>
    rw [dropParts, groups_ofSequence, groups_sequence]
    exact flatMap_groups_subset (List.drop_subset count parts)
  | _ => exact List.Subset.refl _

theorem groups_ofChoice_subset (es : List Expression) : (ofChoice es).groups ⊆ es.flatMap groups := by
  have flat := groups_ofOptions_subset es
  unfold ofChoice
  split
  · rename_i options same
    rw [same, groups_choice] at flat
    split
    · rwa [groups_choice]
    · rename_i start
      refine List.Subset.trans ?_ flat
      rw [groups_ofSequence, List.flatMap_append, List.flatMap_singleton]
      refine List.append_subset.mpr ⟨groups_commonStart_subset options, ?_⟩
      refine List.Subset.trans (groups_ofOptions_subset _) ?_
      intro name present
      simp only [List.mem_flatMap, List.mem_map, exists_exists_and_eq_and] at present ⊢
      obtain ⟨option, inside, named⟩ := present
      exact ⟨option, inside, groups_dropParts_subset _ _ named⟩
  · exact flat

theorem groups_ofRepetition_subset (greedy : Bool) (low : Nat) (high : Option Nat)
    (body : Expression) : (ofRepetition greedy low high body).groups ⊆ body.groups := by
  unfold ofRepetition
  generalize (if body.readsNothing then (min low 1, some (min (high.getD 1) 1))
    else (low, high)) = bounds
  obtain ⟨low, high⟩ := bounds
  dsimp only
  split
  · exact List.nil_subset _
  · split
    · exact List.Subset.refl _
    · exact Pattern.groups_repeated_subset _ _ _ _

end Expression
end PathEdit.Regex
