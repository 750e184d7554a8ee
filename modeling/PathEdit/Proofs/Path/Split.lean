import PathEdit.Proofs.Path.Standard

/-! How the standard syntax splits a text in front of its last step. No text can be split at two
places, so that it does not matter which of them is furthest behind. -/
namespace PathEdit.Grammar

open PathEdit.Frame (Last stepsOf indexes)
open scoped Computability

variable {text front last mid word : List Char} {step other : Option Step}

theorem nil_notMem_names : [] ∉ names := by
  rw [mem_names_iff]
  intro member
  rcases member with ⟨_, empty, _⟩ | name
  · exact List.cons_ne_nil _ _ empty.symm
  · cases name

theorem getLast?_enclosed : (a :: (word ++ [b])).getLast? = some b := by
  rw [← List.cons_append, List.getLast?_concat]

theorem getLast?_of_names (member : text ∈ names) : text.getLast? ≠ some '.' := by
  rcases mem_names_iff.mp member with ⟨word, rfl, name⟩ | name
  · simp [getLast?_enclosed]
  · intro point
    exact name.notMem_of_plain rfl (List.mem_of_getLast? point)

theorem getLast?_of_step (member : text ∈ stepsOf names) : text.getLast? ≠ some '.' := by
  rcases member with name | ⟨name, member, rfl⟩ | ⟨index, member, rfl⟩
  · exact getLast?_of_names name
  · cases name with
    | nil => exact absurd member nil_notMem_names
    | cons c name => simpa [List.getLast?_cons_cons] using getLast?_of_names member
  · simp [getLast?_enclosed]

theorem dropPoint_of_steps (steps : text ∈ (stepsOf names)∗) :
    PathSyntax.dropPoint text = text := by
  obtain ⟨parts, rfl, each⟩ := Language.mem_kstar.mp steps
  refine if_neg ?_
  clear steps
  induction parts with
  | nil => simp
  | cons part rest ih =>
    rw [List.flatten_cons, List.getLast?_append]
    obtain ⟨first, each⟩ := List.forall_mem_cons.mp each
    cases behind : rest.flatten.getLast? with
    | none => simpa using getLast?_of_step first
    | some c => simpa [behind] using ih each

/-- A split leaves steps in front of a last one. -/
theorem last_of_split? {split : PathSyntax.Split}
    (found : PathSyntax.standard.split? text = some split) :
    split.parent ∈ (stepsOf names)∗ ∧
      ∃ last, text = split.parent ++ last ∧ Last names last split.last := by
  obtain ⟨front, last, cut, parent⟩ :=
    Frame.cut_of_split? standard_frames accepts_namePattern found
  rw [parent, dropPoint_of_steps cut.steps]
  exact ⟨cut.steps, last, cut.whole, cut.ends⟩

/-! A text has one last step only. -/

theorem isQuotable_of_mem_names (member : text ∈ names) (present : c ∈ text) (other : c ≠ '"') :
    isQuotable c = true := by
  rcases mem_names_iff.mp member with ⟨word, rfl, name⟩ | name
  · have inside : c ∈ word := by simpa [other] using present
    exact name.each isQuotable_of_beginsName c inside
  · simp [isQuotable, name.each isPlain_of_beginsName c present]

theorem isDigit_of_mem_indexes (member : text ∈ indexes) (present : c ∈ text) (other : c ≠ '*') :
    c.isDigit = true := by
  rcases member with ⟨_, each⟩ | rfl
  · exact each c present
  · exact absurd (List.mem_singleton.mp present) other

/-- What ends with a last step ends as the step does. -/
theorem getLast?_of_last (ends : Last names last step) (same : front ++ last = word ++ [c]) :
    last.getLast? = some c := by
  rw [← List.getLast?_append_of_ne_nil front ends.ne_nil, same, List.getLast?_concat]

theorem last_ne_quoted (ends : Last names last step) (quotable : Identifier isQuotable word) :
    front ++ last ≠ word ++ ['"'] := by
  intro same
  have closing := getLast?_of_last ends same
  cases ends with
  | index => simp [getLast?_enclosed] at closing
  | @name inner member =>
    rcases mem_names_iff.mp member with ⟨inner, rfl, _⟩ | plain
    · have longer : front ++ '.' :: '"' :: inner ++ ['"'] = word ++ ['"'] := by simpa using same
      have present : '"' ∈ word := List.append_cancel_right longer ▸ by simp
      exact quotable.notMem_of_quotable rfl present
    · have present : '"' ∈ inner := by simpa using List.mem_of_getLast? closing
      exact plain.notMem_of_plain rfl present

/-- A last step reaches back to a point or bracket, which no name holds without quotes. -/
theorem notMem_names_of_last (ends : Last names last step) : front ++ last ∉ names := by
  intro member
  rcases mem_names_iff.mp member with ⟨word, same, name⟩ | name
  · cases front with
    | nil => cases ends <;> simp at same
    | cons d front =>
      rw [List.cons_append, List.cons.injEq] at same
      exact last_ne_quoted ends name same.2
  · cases ends with
    | name => exact name.notMem_of_plain rfl (by simp : '.' ∈ _)
    | index => exact name.notMem_of_plain rfl (by simp : '[' ∈ _)

theorem eq_nil_of_longer (ends : Last names last step) (longer : Last names (mid ++ last) other) :
    mid = [] := by
  cases mid with
  | nil => rfl
  | cons d mid =>
    generalize same : d :: mid ++ last = text at longer
    rw [List.cons_append] at same
    cases longer with
    | name member =>
      rw [← (List.cons.inj same).2] at member
      exact absurd member (notMem_names_of_last ends)
    | @index inner inside =>
      obtain ⟨-, same⟩ := List.cons.inj same
      have closing := getLast?_of_last ends same
      cases ends with
      | name member =>
        have present := List.mem_of_getLast? closing
        have legal := isQuotable_of_mem_names member (by simpa using present) (by decide)
        exact absurd legal (by decide)
      | @index index member =>
        have longer : mid ++ '[' :: index ++ [']'] = inner ++ [']'] := by simpa using same
        have present : '[' ∈ inner := List.append_cancel_right longer ▸ by simp
        exact absurd (isDigit_of_mem_indexes inside present (by decide)) (by decide)

theorem last_unique {front' last' : List Char} (ends : Last names last step)
    (ends' : Last names last' other) (same : front ++ last = front' ++ last') :
    front = front' ∧ last = last' := by
  rcases List.append_eq_append_iff.mp same with ⟨mid, rfl, rfl⟩ | ⟨mid, rfl, rfl⟩
  · obtain rfl := eq_nil_of_longer ends' ends
    simp
  · obtain rfl := eq_nil_of_longer ends ends'
    simp

/-- What ends with a last step behind other steps is split there. -/
theorem split?_of_last (steps : front ∈ (stepsOf names)∗) (ends : Last names last step) :
    PathSyntax.standard.split? (front ++ last) = some ⟨front, step⟩ := by
  obtain ⟨split, found⟩ := Option.isSome_iff_exists.mp
    (Frame.isSome_split? standard_frames accepts_namePattern steps ends)
  obtain ⟨_, last', same, ends'⟩ := last_of_split? found
  obtain ⟨rfl, rfl⟩ := last_unique ends ends' same
  rw [found, ends.unique ends']

end PathEdit.Grammar
