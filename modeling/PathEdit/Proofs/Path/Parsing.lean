import PathEdit.Proofs.Path.Steps
import PathEdit.Proofs.Path.Split

/-! The standard syntax reads exactly the expressions of the grammar. -/
namespace PathEdit.Grammar

open Regex
open PathEdit.Frame (Last stepsOf indexes)
open scoped Computability

variable {text front last : List Char} {path : Path} {step : Step} {x : Option Step}

theorem occursIn_standard_iff : PathSyntax.standard.name.occursIn text = true ↔ text ∈ names :=
  Frame.occursIn_iff standard_frames.lone accepts_namePattern

theorem Spells.keyStep_eq (spells : Spells text name) : PathSyntax.keyStep text = .key name := by
  cases spells with
  | plain word =>
    have unquoted : PathSyntax.unquote text = text := by
      unfold PathSyntax.unquote
      split
      · exact absurd (by simp : '"' ∈ _) (word.notMem_of_plain rfl)
      · rfl
    rw [PathSyntax.keyStep, unquoted]
  | quoted word =>
    simp [PathSyntax.keyStep, PathSyntax.unquote]

theorem spells_keyStep (member : text ∈ names) :
    ∃ name, Spells text name ∧ PathSyntax.keyStep text = .key name := by
  obtain ⟨name, spells⟩ := member
  exact ⟨name, spells, spells.keyStep_eq⟩

theorem indexes_iff : Indexes text step ↔ text ∈ indexes ∧ PathSyntax.index? text = some step := by
  constructor
  · intro inside
    cases inside with
    | wildcard => exact ⟨.inr rfl, rfl⟩
    | position nonempty each bounded =>
      have number : text ≠ ['*'] := by
        intro equal
        subst equal
        exact absurd (each '*' (by simp)) (by decide)
      exact ⟨.inl ⟨nonempty, each⟩, by simpa [PathSyntax.index?, number] using bounded⟩
  · intro inside
    obtain ⟨⟨nonempty, each⟩ | rfl, found⟩ := inside
    · have number : text ≠ ['*'] := by
        intro equal
        subst equal
        exact absurd (each '*' (by simp)) (by decide)
      rw [PathSyntax.index?, if_neg number, Option.ite_none_right_eq_some, Option.some_inj] at found
      obtain ⟨bounded, rfl⟩ := found
      exact .position nonempty each bounded
    · cases found
      exact .wildcard

theorem tail_iff : Tail last step ↔ Last names last (some step) := by
  constructor
  · intro tail
    rcases tail with spells | inside
    · rw [← spells.keyStep_eq]
      exact .name ⟨_, spells⟩
    · obtain ⟨member, found⟩ := indexes_iff.mp inside
      exact found ▸ .index member
  · generalize found : some step = read
    intro ends
    rcases ends with member | member
    · obtain ⟨name, spells, same⟩ := spells_keyStep member
      cases found.trans (congrArg some same)
      exact .name spells
    · exact .index (indexes_iff.mpr ⟨member, found.symm⟩)

theorem Denotes.ne_nil (denotes : Denotes text path) : text ≠ [] := by
  cases denotes with
  | head head =>
    cases head with
    | name spells =>
      intro equal
      subst equal
      exact nil_notMem_names ⟨_, spells⟩
    | tail tail => exact (tail_iff.mp tail).ne_nil
  | tail _ tail => simp [(tail_iff.mp tail).ne_nil]

theorem Denotes.steps (denotes : Denotes text path) : text ∈ (stepsOf names)∗ := by
  induction denotes with
  | head head =>
    refine append_mem_kstar (Language.nil_mem_kstar _) ?_
    cases head with
    | name spells => exact .inl ⟨_, spells⟩
    | tail tail => exact (tail_iff.mp tail).mem_stepsOf
  | tail _ tail ih => exact append_mem_kstar ih (tail_iff.mp tail).mem_stepsOf

/-- A path is a name, or it ends with a last step. -/
theorem denotes_iff : Denotes text path ↔
    (text ∈ names ∧ path = [PathSyntax.keyStep text]) ∨
      ∃ front last before step, text = front ++ last ∧ path = before ++ [step] ∧
        Last names last (some step) ∧ (front = [] ∧ before = [] ∨ Denotes front before) := by
  constructor
  · intro denotes
    cases denotes with
    | head head =>
      cases head with
      | name spells => exact .inl ⟨⟨_, spells⟩, by rw [spells.keyStep_eq]⟩
      | tail tail => exact .inr ⟨[], _, [], _, rfl, rfl, tail_iff.mp tail, .inl ⟨rfl, rfl⟩⟩
    | tail before tail => exact .inr ⟨_, _, _, _, rfl, rfl, tail_iff.mp tail, .inr before⟩
  · intro ending
    rcases ending with ⟨member, rfl⟩ | ⟨front, last, before, step, rfl, rfl, ends, ⟨rfl, rfl⟩ | denotes⟩
    · obtain ⟨name, spells, same⟩ := spells_keyStep member
      exact same ▸ .head (.name spells)
    · exact .head (.tail (tail_iff.mpr ends))
    · exact .tail denotes (tail_iff.mpr ends)

theorem steps?_of_mem_names (member : text ∈ names) :
    PathSyntax.standard.steps? text = some (some [PathSyntax.keyStep text]) := by
  have whole : PathSyntax.standard.split? text = none := by
    by_contra found
    obtain ⟨split, found⟩ := Option.ne_none_iff_exists'.mp found
    obtain ⟨_, last, same, ends⟩ := last_of_split? found
    exact notMem_names_of_last ends (same ▸ member)
  rw [PathSyntax.steps?_of_whole whole, occursIn_standard_iff.mpr member, if_pos rfl]

theorem occursIn_standard_eq_false (other : text ∉ names) :
    PathSyntax.standard.name.occursIn text = false :=
  Bool.eq_false_iff.mpr fun occurs => other (occursIn_standard_iff.mp occurs)

theorem steps?_of_last (steps : front ∈ (stepsOf names)∗) (ends : Last names last x) :
    PathSyntax.standard.steps? (front ++ last) =
      (if front = [] then some (some []) else PathSyntax.standard.steps? front).map fun before? =>
        before?.bind fun before => x.map fun step => before ++ [step] := by
  have parted : (PathSyntax.isPlain (front ++ last) &&
      PathSyntax.standard.name.occursIn (front ++ last)) = false := by
    rw [occursIn_standard_eq_false (notMem_names_of_last ends), Bool.and_false]
  exact PathSyntax.steps?_of_split (split?_of_last steps ends) parted

theorem steps?_of_unsplit (other : text ∉ names)
    (whole : PathSyntax.standard.split? text = none) :
    PathSyntax.standard.steps? text = some none := by
  rw [PathSyntax.steps?_of_whole whole, occursIn_standard_eq_false other]
  rfl

/-- The steps that are read are those of the grammar, by induction on the length of the text. -/
theorem steps?_eq_some_iff :
    PathSyntax.standard.steps? text = some (some path) ↔ Denotes text path := by
  induction length : text.length using Nat.strong_induction_on generalizing text path with
  | h _ ih =>
    subst length
    rw [denotes_iff]
    constructor
    · intro found
      by_cases member : text ∈ names
      · rw [steps?_of_mem_names member] at found
        exact .inl ⟨member, (Option.some.inj (Option.some.inj found)).symm⟩
      cases cut : PathSyntax.standard.split? text with
      | none => simp [steps?_of_unsplit member cut] at found
      | some split =>
        obtain ⟨steps, last, rfl, ends⟩ := last_of_split? cut
        rw [steps?_of_last steps ends] at found
        obtain ⟨before?, parent, found⟩ := Option.map_eq_some_iff.mp found
        obtain ⟨before, rfl, found⟩ := Option.bind_eq_some_iff.mp found
        obtain ⟨step, reads, rfl⟩ := Option.map_eq_some_iff.mp found
        refine .inr ⟨split.parent, last, before, step, rfl, rfl, reads ▸ ends, ?_⟩
        split at parent
        · rename_i empty
          exact .inl ⟨empty, (Option.some.inj (Option.some.inj parent)).symm⟩
        · have shorter := List.length_pos_of_ne_nil ends.ne_nil
          exact .inr ((ih _ (by rw [List.length_append]; omega) rfl).mp parent)
    · intro ending
      rcases ending with ⟨member, rfl⟩ | ⟨front, last, before, step, rfl, rfl, ends, denotes⟩
      · exact steps?_of_mem_names member
      · rcases denotes with ⟨rfl, rfl⟩ | denotes
        · rw [steps?_of_last (Language.nil_mem_kstar _) ends, if_pos rfl]
          rfl
        · have shorter := List.length_pos_of_ne_nil ends.ne_nil
          have steps := (ih _ (by rw [List.length_append]; omega) rfl).mpr denotes
          rw [steps?_of_last denotes.steps ends, if_neg denotes.ne_nil, steps]
          rfl

theorem parse?_eq_some_iff {expression : String} :
    PathSyntax.standard.parse? expression = some path ↔ Denotes expression.toList path := by
  rw [PathSyntax.parse?, Option.join_eq_some_iff, steps?_eq_some_iff]

theorem parse_eq_ok_iff {expression : String} :
    PathSyntax.standard.parse expression = .ok path ↔ Denotes expression.toList path := by
  rw [← parse?_eq_some_iff, PathSyntax.parse]
  cases PathSyntax.standard.parse? expression <;> simp

theorem parse_eq_error_iff {expression : String} {e : Error} :
    PathSyntax.standard.parse expression = .error e ↔
      e = .invalidPath expression ∧ ∀ path, ¬ Denotes expression.toList path := by
  simp only [← parse?_eq_some_iff, PathSyntax.parse]
  cases PathSyntax.standard.parse? expression <;> simp [eq_comm]

end PathEdit.Grammar
