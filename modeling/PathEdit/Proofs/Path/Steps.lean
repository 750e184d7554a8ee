import PathEdit.Path.Syntax

/-! How the steps of a text come from those of what is split off in front of its last step. -/
namespace PathEdit.PathSyntax

open Regex

variable {s : PathSyntax} {text : List Char} {split : Split}

theorem isPrefix_dropPoint (text : List Char) : dropPoint text <+: text := by
  unfold dropPoint
  split
  · exact List.dropLast_prefix text
  · exact List.prefix_refl text

/-- What is split again is a part of the text. -/
theorem isInfix_parent (found : s.split? text = some split) : split.parent <:+: text := by
  obtain ⟨trace, -, rfl⟩ := Option.map_eq_some_iff.mp found
  refine (isPrefix_dropPoint _).isInfix.trans ?_
  cases captured : trace.capture? "parent" text with
  | none => exact List.nil_infix
  | some front =>
    simp only [Trace.capture?, Option.bind_eq_bind, Option.bind_eq_some_iff] at captured
    obtain ⟨first, -, last, -, same⟩ := captured
    obtain rfl := Option.some.inj same
    exact (List.take_prefix _ _).isInfix.trans (List.drop_suffix _ _).isInfix

/-- A name without points and brackets is not split. -/
theorem steps?_of_plain (plain : isPlain text = true) (occurs : s.name.occursIn text = true) :
    s.steps? text = some (some [keyStep text]) := by
  rw [steps?, plain, occurs]
  rfl

theorem steps?_of_whole (whole : s.split? text = none) :
    s.steps? text = some (if s.name.occursIn text then some [keyStep text] else none) := by
  rw [steps?, whole]
  exact ite_self _

/-- Splitting does not come to an end where nothing is cut off. -/
theorem steps?_of_stuck (found : s.split? text = some split)
    (parted : (isPlain text && s.name.occursIn text) = false) (nonempty : split.parent ≠ [])
    (stuck : split.parent = text) : s.steps? text = none := by
  have some : text ≠ [] := stuck ▸ nonempty
  rw [steps?, found, parted]
  simp [some, stuck]

theorem steps?_of_split (found : s.split? text = some split)
    (parted : (isPlain text && s.name.occursIn text) = false) :
    s.steps? text =
      (if split.parent = [] then some (some []) else s.steps? split.parent).map fun before? =>
        before?.bind fun before => split.last.map fun step => before ++ [step] := by
  by_cases leading : split.parent = []
  · rw [steps?, found, parted]
    simp only [Bool.false_eq_true, if_false, List.isEmpty_iff, leading, if_true]
    cases split.last <;> rfl
  rw [if_neg leading]
  rcases Nat.lt_or_eq_of_le (isInfix_parent found).length_le with shorter | same
  · rw [steps?, found, parted]
    simp only [Bool.false_eq_true, if_false, List.isEmpty_iff, leading, shorter, if_true]
    cases s.steps? split.parent with
    | none => rfl
    | some before? => cases before? <;> cases split.last <;> rfl
  · have stuck := (isInfix_parent found).eq_of_length same
    rw [stuck, steps?_of_stuck found parted leading stuck]
    rfl

theorem parse_eq_ok_iff {expression : String} {path : Path} :
    s.parse expression = .ok path ↔ s.steps? expression.toList = some (some path) := by
  rw [← Option.join_eq_some_iff, ← parse?, parse]
  cases s.parse? expression <;> simp

/-- What holds of texts that are not split, and is kept by a last step behind what is split off in
front of it, holds of all results where splitting comes to an end. -/
theorem steps?_induct {motive : List Char → Option Path → Prop}
    (alone : ∀ {text}, (isPlain text && s.name.occursIn text) = true ∨ s.split? text = none →
      motive text (if s.name.occursIn text then some [keyStep text] else none))
    (behind : ∀ {text split before?}, s.split? text = some split →
      (split.parent = [] ∧ before? = some [] ∨ motive split.parent before?) →
      motive text (before?.bind fun before => split.last.map fun step => before ++ [step]))
    {result : Option Path} (steps : s.steps? text = some result) : motive text result := by
  induction length : text.length using Nat.strongRecOn generalizing text result with
  | ind _ ih =>
    subst length
    cases parted : isPlain text && s.name.occursIn text with
    | true =>
      obtain ⟨plain, occurs⟩ := Bool.and_eq_true_iff.mp parted
      rw [steps?_of_plain plain occurs] at steps
      have step := alone (.inl parted)
      rw [if_pos occurs] at step
      exact Option.some.inj steps ▸ step
    | false =>
      cases cut : s.split? text with
      | none =>
        rw [steps?_of_whole cut] at steps
        exact Option.some.inj steps ▸ alone (.inr cut)
      | some split =>
        have whole := steps
        rw [steps?_of_split cut parted] at steps
        by_cases leading : split.parent = []
        · rw [if_pos leading] at steps
          exact Option.some.inj steps ▸ behind cut (.inl ⟨leading, rfl⟩)
        · rw [if_neg leading] at steps
          obtain ⟨before?, parent, rfl⟩ := Option.map_eq_some_iff.mp steps
          rcases Nat.lt_or_eq_of_le (isInfix_parent cut).length_le with shorter | same
          · exact behind cut (.inr (ih _ shorter parent rfl))
          · rw [steps?_of_stuck cut parted leading ((isInfix_parent cut).eq_of_length same)] at whole
            cases whole

/-- A path that is read has steps. -/
theorem ne_nil_of_parse {expression : String} {path : Path} (read : s.parse expression = .ok path) :
    path ≠ [] := by
  refine steps?_induct (motive := fun _ result => ∀ path, result = some path → path ≠ []) ?_ ?_
    (parse_eq_ok_iff.mp read) path rfl
  · intro text _ path found
    split at found <;> cases found
    exact List.cons_ne_nil _ _
  · intro text split before? _ _ path found
    obtain ⟨before, -, found⟩ := Option.bind_eq_some_iff.mp found
    obtain ⟨step, -, rfl⟩ := Option.map_eq_some_iff.mp found
    exact List.concat_ne_nil _ _

end PathEdit.PathSyntax
