import PathEdit.Proofs.Path.Frame
import PathEdit.Proofs.Path.Rendering

/-! Canonical texts as expressions of a syntax around some pattern of names. A canonical text is split
in front of its last step and nowhere else, since only names in quotes hold points. -/
namespace PathEdit

open Regex PathEdit.Frame
open scoped Computability

/-- A name whose canonical text is one of a language. -/
structure Written (language : Language Char) (name : List Char) : Prop where
  member : Step.nameChars name ∈ language
  unquoted : '"' ∉ name
  ne_nil : name ≠ []

/-- A step whose name, if it has one, is written in a language. -/
def Step.WrittenIn (language : Language Char) : Step → Prop
  | key name => Written language name.toList
  | position _ | wildcard => True

/-- The names of a language that stand in a text hold quotes around them only, and brackets only in
quotes. -/
structure Orderly (language : Language Char) (text : List Char) : Prop where
  quoted (member : word ∈ language) (inside : word <:+: text) (quote : '"' ∈ word) :
    ∃ inner, word = '"' :: (inner ++ ['"']) ∧ '"' ∉ inner
  bare (member : word ∈ language) (inside : word <:+: text) (unquoted : '"' ∉ word) : '[' ∉ word

variable {s : PathSyntax} {pattern : Pattern} {language : Language Char} {path rest : Path}
  {step : Step} {name word text front behind last : List Char}

theorem Orderly.mono (orderly : Orderly language text) (shorter : front <:+: text) :
    Orderly language front where
  quoted member inside := orderly.quoted member (inside.trans shorter)
  bare member inside := orderly.bare member (inside.trans shorter)

theorem eq_or_of_append_cons {x y front rest : List Char} {c : Char}
    (same : x ++ y = front ++ c :: rest) :
    (∃ mid, front = x ++ mid ∧ y = mid ++ c :: rest) ∨
      ∃ mid, x = front ++ c :: mid ∧ rest = mid ++ y := by
  rcases List.append_eq_append_iff.mp same with ⟨mid, rfl, behind⟩ | ⟨mid, rfl, behind⟩
  · exact .inl ⟨mid, rfl, behind⟩
  · cases mid with
    | nil => exact .inl ⟨[], by simp, by simpa using behind.symm⟩
    | cons d mid =>
      obtain ⟨rfl, rfl⟩ := List.cons.inj behind
      exact .inr ⟨mid, rfl, rfl⟩

namespace Written

/-- A name is written as it is, when it holds no point, or in quotes. -/
theorem nameChars_cases (written : Written language name) :
    (Step.nameChars name = name ∧ '.' ∉ name ∧ '"' ∉ name) ∨
      Step.nameChars name = '"' :: (name ++ ['"']) := by
  unfold Step.nameChars
  split
  · exact .inr rfl
  · rename_i pointless
    exact .inl ⟨rfl, by simpa using pointless, written.unquoted⟩

theorem unquote_nameChars (written : Written language name) :
    PathSyntax.unquote (Step.nameChars name) = name := by
  rcases written.nameChars_cases with ⟨same, -, unquoted⟩ | same
  · rw [same]
    unfold PathSyntax.unquote
    split
    · exact absurd (by simp) unquoted
    · rfl
  · simp [same, PathSyntax.unquote]

theorem nameChars_ne_nil (written : Written language name) : Step.nameChars name ≠ [] := by
  rcases written.nameChars_cases with ⟨same, -⟩ | same
  · rw [same]
    exact written.ne_nil
  · simp [same]

theorem getLast?_nameChars (written : Written language name) :
    (Step.nameChars name).getLast? ≠ some '.' := by
  rcases written.nameChars_cases with ⟨same, pointless, -⟩ | same
  · rw [same]
    exact fun point => pointless (List.mem_of_getLast? point)
  · simp [same, Grammar.getLast?_enclosed]

/-- What stands behind a point in the text of a name holds a quote. -/
theorem quote_behind_point (written : Written language name)
    (same : Step.nameChars name = front ++ '.' :: behind) : '"' ∈ behind := by
  rcases written.nameChars_cases with ⟨bare, pointless, -⟩ | quoted
  · rw [bare] at same
    exact absurd (by simp [same]) pointless
  · have closing := congrArg List.getLast? (quoted.symm.trans same)
    rw [Grammar.getLast?_enclosed, List.getLast?_append_cons] at closing
    cases behind with
    | nil => simp at closing
    | cons c behind =>
      rw [List.getLast?_cons_cons] at closing
      exact List.mem_of_getLast? closing.symm

/-- No name of a language stands behind a point in the text of a name. -/
theorem ne_point (written : Written language name) (orderly : Orderly language text)
    (inside : Step.nameChars name <:+: text) (member : word ∈ language) :
    Step.nameChars name ≠ front ++ '.' :: word := by
  intro same
  have part : word <:+: text := by
    refine List.IsInfix.trans ⟨front ++ ['.'], [], ?_⟩ inside
    simp [same]
  obtain ⟨inner, rfl, -⟩ := orderly.quoted member part (written.quote_behind_point same)
  rcases written.nameChars_cases with ⟨bare, pointless, -⟩ | quoted
  · rw [bare] at same
    exact absurd (by simp [same]) pointless
  · rw [quoted] at same
    cases front with
    | nil => simp at same
    | cons c front =>
      have longer : name ++ ['"'] = front ++ '.' :: '"' :: inner ++ ['"'] := by
        simpa using (List.cons.inj same).2
      exact written.unquoted (List.append_cancel_right longer ▸ by simp)

/-- Where the text of a name ends a text in quotes behind a point, there are quotes inside, too. -/
theorem quote_inside {inner : List Char} (written : Written language name)
    (same : front ++ '.' :: Step.nameChars name = '"' :: (inner ++ ['"'])) : '"' ∈ inner := by
  cases front with
  | nil => simp at same
  | cons c front =>
    obtain ⟨-, same⟩ := List.cons.inj same
    rcases written.nameChars_cases with ⟨bare, -, unquoted⟩ | quoted
    · rw [bare] at same
      obtain ⟨init, d, rfl⟩ := (List.eq_nil_or_concat name).resolve_left written.ne_nil
      have longer : (front ++ '.' :: init) ++ [d] = inner ++ ['"'] := by simpa using same
      obtain ⟨-, closing⟩ := List.append_inj' longer rfl
      exact absurd (by simp [List.singleton_inj.mp closing]) unquoted
    · rw [quoted] at same
      have longer : front ++ '.' :: '"' :: name ++ ['"'] = inner ++ ['"'] := by simpa using same
      exact List.append_cancel_right longer ▸ by simp

/-- No text of a last bracket stands at the end of the text of a name. -/
theorem ne_bracket (written : Written language name) (orderly : Orderly language text)
    (inside : Step.nameChars name <:+: text) :
    Step.nameChars name ≠ front ++ '[' :: (behind ++ [']']) := by
  intro same
  rcases written.nameChars_cases with ⟨bare, -, unquoted⟩ | quoted
  · have absent := orderly.bare written.member inside (by rwa [bare])
    exact absent (by simp [same])
  · have closing := congrArg List.getLast? (quoted.symm.trans same)
    simp [Grammar.getLast?_enclosed] at closing

end Written

namespace Step

/-- What a step is written as behind other ones: a name behind a point, or an index in brackets. -/
theorem WrittenIn.cases (written : step.WrittenIn language) :
    (∃ name, step = .key name ∧ Written language name.toList ∧
        step.leadingChars = nameChars name.toList ∧ step.chars = '.' :: nameChars name.toList) ∨
      ∃ inner ∈ indexes, step.leadingChars = '[' :: (inner ++ [']']) ∧
        step.chars = '[' :: (inner ++ [']']) ∧ PathSyntax.index? inner = some step := by
  cases step with
  | key name => exact .inl ⟨name, rfl, written, rfl, rfl⟩
  | position index =>
    obtain ⟨member, found⟩ := Grammar.indexes_iff.mp (indexes_toDigits index)
    exact .inr ⟨_, member, rfl, rfl, found⟩
  | wildcard => exact .inr ⟨['*'], .inr rfl, rfl, rfl, rfl⟩

theorem keyStep_nameChars {name : String} (written : Written language name.toList) :
    PathSyntax.keyStep (nameChars name.toList) = .key name := by
  rw [PathSyntax.keyStep, written.unquote_nameChars, String.ofList_toList]

theorem last_chars_of_writtenIn (written : step.WrittenIn language) :
    Last language step.chars (some step) := by
  rcases written.cases with ⟨name, rfl, written, -, same⟩ | ⟨inner, member, -, same, found⟩
  · rw [same, ← keyStep_nameChars written]
    exact .name written.member
  · rw [same, ← found]
    exact .index member

theorem leadingChars_mem_steps (written : step.WrittenIn language) :
    step.leadingChars ∈ stepsOf language := by
  rcases written.cases with ⟨name, rfl, written, same, -⟩ | ⟨inner, member, same, -⟩
  · exact same ▸ .inl written.member
  · exact same ▸ .inr (.inr ⟨inner, member, rfl⟩)

theorem getLast?_leadingChars (written : step.WrittenIn language) :
    step.leadingChars.getLast? ≠ some '.' := by
  rcases written.cases with ⟨name, rfl, written, same, -⟩ | ⟨inner, member, same, -⟩
  · exact same ▸ written.getLast?_nameChars
  · simp [same, Grammar.getLast?_enclosed]

theorem leadingChars_ne_nil (written : step.WrittenIn language) : step.leadingChars ≠ [] := by
  rcases written.cases with ⟨name, rfl, written, same, -⟩ | ⟨inner, member, same, -⟩
  · exact same ▸ written.nameChars_ne_nil
  · simp [same]

theorem notMem_indexChars {c : Char} {inner : List Char} (member : inner ∈ indexes)
    (other : c.isDigit = false) (star : c ≠ '*') (closing : c ≠ ']') : c ∉ inner ++ [']'] := by
  intro present
  have inside : c ∈ inner := by simpa [closing] using present
  rw [Grammar.isDigit_of_mem_indexes member inside star] at other
  cases other

/-- What stands behind a point in the text of a first step holds a quote. -/
theorem quote_behind_point (written : step.WrittenIn language)
    (same : step.leadingChars = front ++ '.' :: behind) : '"' ∈ behind := by
  rcases written.cases with ⟨name, rfl, written, text, -⟩ | ⟨inner, member, text, -⟩
  · exact written.quote_behind_point (text.symm.trans same)
  · have absent := notMem_indexChars (c := '.') member (by decide) (by decide) (by decide)
    have present : '.' ∈ '[' :: (inner ++ [']']) := by simp [← text, same]
    exact absurd ((List.mem_cons.mp present).resolve_left (by decide)) absent

end Step

namespace Path

theorem chars_concat (nonempty : path ≠ []) : chars (path ++ [step]) = path.chars ++ step.chars := by
  obtain ⟨first, others, rfl⟩ := List.exists_cons_of_ne_nil nonempty
  simp [chars]

theorem flatMap_mem_steps (written : ∀ step ∈ path, step.WrittenIn language) :
    path.flatMap Step.chars ∈ (stepsOf language)∗ := by
  rw [List.flatMap_def]
  refine Language.join_mem_kstar fun part present => ?_
  obtain ⟨step, inside, rfl⟩ := List.mem_map.mp present
  exact (Step.last_chars_of_writtenIn (written step inside)).mem_stepsOf

theorem chars_mem_steps (written : ∀ step ∈ path, step.WrittenIn language) :
    path.chars ∈ (stepsOf language)∗ := by
  cases path with
  | nil => exact Language.nil_mem_kstar _
  | cons step rest =>
    obtain ⟨first, others⟩ := List.forall_mem_cons.mp written
    have alone : step.leadingChars ∈ (stepsOf language)∗ :=
      append_mem_kstar (Language.nil_mem_kstar _) (Step.leadingChars_mem_steps first)
    rw [← kstar_mul_kstar]
    exact Language.append_mem_mul alone (flatMap_mem_steps others)

/-- In the text of further steps a name begins behind a point that no quote follows, and steps
follow it. -/
theorem name_behind_point_further (written : ∀ step ∈ path, step.WrittenIn language)
    (same : path.flatMap Step.chars = front ++ '.' :: behind) (unquoted : '"' ∉ behind) :
    ∃ word ∈ language, ∃ more ∈ (stepsOf language)∗, behind = word ++ more := by
  induction path generalizing front with
  | nil => simp at same
  | cons step rest ih =>
    obtain ⟨first, others⟩ := List.forall_mem_cons.mp written
    rw [List.flatMap_cons] at same
    rcases eq_or_of_append_cons same with ⟨mid, -, same⟩ | ⟨mid, text, rfl⟩
    · exact ih others same
    · have quoteless : '"' ∉ mid := fun present => unquoted (List.mem_append_left _ present)
      rcases first.cases with ⟨name, rfl, written, leading, chars⟩ | ⟨_, _, leading, chars, _⟩
      · rw [chars] at text
        cases front with
        | nil =>
          obtain ⟨-, rfl⟩ := List.cons.inj text
          exact ⟨_, written.member, _, flatMap_mem_steps others, rfl⟩
        | cons c front => exact absurd (written.quote_behind_point (List.cons.inj text).2) quoteless
      · rw [chars, ← leading] at text
        exact absurd (Step.quote_behind_point first text) quoteless

theorem name_behind_point (written : ∀ step ∈ path, step.WrittenIn language)
    (same : path.chars = front ++ '.' :: behind) (unquoted : '"' ∉ behind) :
    ∃ word ∈ language, ∃ more ∈ (stepsOf language)∗, behind = word ++ more := by
  cases path with
  | nil => simp [chars] at same
  | cons step rest =>
    obtain ⟨first, others⟩ := List.forall_mem_cons.mp written
    rcases eq_or_of_append_cons same with ⟨mid, -, same⟩ | ⟨mid, text, rfl⟩
    · exact name_behind_point_further others same unquoted
    · have quoted := Step.quote_behind_point first text
      exact absurd (List.mem_append_left _ quoted) unquoted

theorem dropPoint_chars (written : ∀ step ∈ path, step.WrittenIn language) :
    PathSyntax.dropPoint path.chars = path.chars := by
  refine if_neg fun point => ?_
  cases path using List.reverseRecOn with
  | nil => simp [chars] at point
  | append_singleton others step =>
    have last := written step (by simp)
    have leading := Step.getLast?_leadingChars last
    have nonempty := Step.leadingChars_ne_nil last
    by_cases alone : others = []
    · subst alone
      exact leading (by simpa [chars] using point)
    · have ends : step.chars.getLast? = step.leadingChars.getLast? := by
        rcases last.cases with ⟨name, rfl, _, leading, chars⟩ | ⟨_, _, leading, chars, _⟩
        · rw [leading] at nonempty ⊢
          rw [chars, ← List.singleton_append, List.getLast?_append_of_ne_nil _ nonempty]
        · rw [leading, chars]
      have some_chars : step.chars ≠ [] := (Step.last_chars_of_writtenIn last).ne_nil
      rw [chars_concat alone, List.getLast?_append_of_ne_nil _ some_chars, ends] at point
      exact leading point

theorem last_bracket_eq {x y : List Char} {inner inner' : List Char}
    (member : inner ∈ indexes) (member' : inner' ∈ indexes)
    (same : x ++ '[' :: (inner ++ [']']) = y ++ '[' :: (inner' ++ [']'])) : x = y := by
  have absent {inner : List Char} (member : inner ∈ indexes) : '[' ∉ inner ++ [']'] :=
    Step.notMem_indexChars member (by decide) (by decide) (by decide)
  rcases eq_or_of_append_cons same with ⟨mid, rfl, behind⟩ | ⟨mid, -, behind⟩
  · cases mid with
    | nil => simp
    | cons c mid =>
      obtain ⟨-, behind⟩ := List.cons.inj behind
      exact absurd (by simp [behind]) (absent member)
  · exact absurd (by simp [behind]) (absent member')

/-- A canonical text that ends with a name is cut in front of its point only. -/
theorem cut_unique_name {found : Option Step} {name : String}
    (written : ∀ step ∈ path, step.WrittenIn language) (ends : Written language name.toList)
    (orderly : Orderly language (path.chars ++ '.' :: Step.nameChars name.toList))
    (cut : Cut language (path.chars ++ '.' :: Step.nameChars name.toList) front last found) :
    front = path.chars := by
  obtain ⟨whole, -, behind, furthest⟩ := cut
  have inside : Step.nameChars name.toList <:+: path.chars ++ '.' :: Step.nameChars name.toList :=
    ⟨path.chars ++ ['.'], [], by simp⟩
  cases behind with
  | @name word member =>
    rcases eq_or_of_append_cons whole with ⟨mid, rfl, same⟩ | ⟨mid, same, rfl⟩
    · cases mid with
      | nil => simp
      | cons c mid =>
        exact absurd (List.cons.inj same).2 (ends.ne_point orderly inside member)
    · by_cases quote : '"' ∈ mid ++ '.' :: Step.nameChars name.toList
      · have part : mid ++ '.' :: Step.nameChars name.toList <:+:
            path.chars ++ '.' :: Step.nameChars name.toList :=
          ⟨front ++ ['.'], [], by simp [same]⟩
        obtain ⟨inner, quoted, unquoted⟩ := orderly.quoted member part quote
        exact absurd (ends.quote_inside quoted) unquoted
      · have unquoted : '"' ∉ mid := fun present => quote (List.mem_append_left _ present)
        obtain ⟨word, first, more, steps, rfl⟩ := name_behind_point written same unquoted
        exact absurd (by simp) (furthest first steps (.name ends.member))
  | @index inner member =>
    rcases eq_or_of_append_cons whole with ⟨mid, rfl, same⟩ | ⟨mid, -, same⟩
    · cases mid with
      | nil => simp at same
      | cons c mid =>
        exact absurd (List.cons.inj same).2 (ends.ne_bracket orderly inside)
    · have absent := Step.notMem_indexChars (c := '.') member (by decide) (by decide) (by decide)
      exact absurd (by simp [same]) absent

/-- A canonical text that ends with an index is cut in front of its bracket only. -/
theorem cut_unique_index {found : Option Step} {inner : List Char}
    (member : inner ∈ indexes)
    (orderly : Orderly language (path.chars ++ '[' :: (inner ++ [']'])))
    (cut : Cut language (path.chars ++ '[' :: (inner ++ [']'])) front last found) :
    front = path.chars := by
  obtain ⟨whole, -, behind, -⟩ := cut
  cases behind with
  | @name word member' =>
    rcases eq_or_of_append_cons whole with ⟨mid, -, same⟩ | ⟨mid, same, rfl⟩
    · have absent := Step.notMem_indexChars (c := '.') member (by decide) (by decide) (by decide)
      have present : '.' ∈ '[' :: (inner ++ [']']) := by simp [same]
      exact absurd ((List.mem_cons.mp present).resolve_left (by decide)) absent
    · have part : mid ++ '[' :: (inner ++ [']']) <:+: path.chars ++ '[' :: (inner ++ [']']) :=
        ⟨front ++ ['.'], [], by simp [same]⟩
      by_cases quote : '"' ∈ mid ++ '[' :: (inner ++ [']'])
      · obtain ⟨_, quoted, -⟩ := orderly.quoted member' part quote
        have closing := congrArg List.getLast? quoted
        simp [Grammar.getLast?_enclosed] at closing
      · exact absurd (by simp) (orderly.bare member' part quote)
  | @index inner' member' => exact (last_bracket_eq member member' whole).symm

/-- A canonical text is cut in front of its last step only. -/
theorem cut_unique {found : Option Step} (written : ∀ step ∈ path, step.WrittenIn language)
    (ends : step.WrittenIn language) (orderly : Orderly language (path.chars ++ step.chars))
    (cut : Cut language (path.chars ++ step.chars) front last found) : front = path.chars := by
  rcases ends.cases with ⟨name, rfl, written', -, text⟩ | ⟨inner, member, -, text, -⟩
  · rw [text] at orderly cut
    exact cut_unique_name written written' orderly cut
  · rw [text] at orderly cut
    exact cut_unique_index member orderly cut

/-- A canonical text is split in front of its last step. -/
theorem split?_chars (frames : s.Frames pattern) (accepts : Accepts pattern language)
    (written : ∀ step ∈ path, step.WrittenIn language) (ends : step.WrittenIn language)
    (orderly : Orderly language (path.chars ++ step.chars)) :
    s.split? (path.chars ++ step.chars) = some ⟨path.chars, some step⟩ := by
  have last := Step.last_chars_of_writtenIn ends
  obtain ⟨split, found⟩ := Option.isSome_iff_exists.mp
    (isSome_split? frames accepts (chars_mem_steps written) last)
  obtain ⟨front, last', cut, parent⟩ := cut_of_split? frames accepts found
  obtain rfl := cut_unique written ends orderly cut
  obtain rfl := List.append_cancel_left cut.whole
  rw [dropPoint_chars written] at parent
  rw [found, ← parent, last.unique cut.ends]

theorem not_plain_chars (ends : step.WrittenIn language) :
    PathSyntax.isPlain (front ++ step.chars) = false := by
  rcases ends.cases with ⟨name, rfl, -, -, same⟩ | ⟨inner, -, -, same, -⟩ <;>
    simp [same, PathSyntax.isPlain]

/-- The text of a name that stands alone is not split. -/
theorem split?_nameChars (frames : s.Frames pattern) (accepts : Accepts pattern language)
    (written : Written language name) (orderly : Orderly language (Step.nameChars name)) :
    s.split? (Step.nameChars name) = none := by
  by_contra found
  obtain ⟨split, found⟩ := Option.ne_none_iff_exists'.mp found
  obtain ⟨front, last, ⟨whole, -, ends, -⟩, -⟩ := cut_of_split? frames accepts found
  generalize split.last = step at ends
  cases ends with
  | name member => exact written.ne_point orderly (List.infix_refl _) member whole
  | index => exact written.ne_bracket orderly (List.infix_refl _) whole

theorem chars_ne_nil (nonempty : path ≠ []) (written : ∀ step ∈ path, step.WrittenIn language) :
    path.chars ≠ [] := by
  obtain ⟨first, others, rfl⟩ := List.exists_cons_of_ne_nil nonempty
  simp [chars, Step.leadingChars_ne_nil (written first (by simp))]

theorem steps?_concat (frames : s.Frames pattern) (accepts : Accepts pattern language)
    (written : ∀ step ∈ path, step.WrittenIn language) (ends : step.WrittenIn language)
    (orderly : Orderly language (path.chars ++ step.chars))
    (before : path ≠ [] → s.steps? path.chars = some (some path)) :
    s.steps? (path.chars ++ step.chars) = some (some (path ++ [step])) := by
  have parted : (PathSyntax.isPlain (path.chars ++ step.chars) &&
      s.name.occursIn (path.chars ++ step.chars)) = false := by
    rw [not_plain_chars ends, Bool.false_and]
  rw [PathSyntax.steps?_of_split (split?_chars frames accepts written ends orderly) parted]
  by_cases none : path = []
  · subst none
    rfl
  · rw [if_neg (chars_ne_nil none written), before none]
    rfl

/-- The steps of a canonical text are those that it was written for, by induction from the last step
on. -/
theorem steps?_chars (frames : s.Frames pattern) (accepts : Accepts pattern language)
    (nonempty : path ≠ []) (written : ∀ step ∈ path, step.WrittenIn language)
    (orderly : Orderly language path.chars) : s.steps? path.chars = some (some path) := by
  induction path using List.reverseRecOn with
  | nil => exact absurd rfl nonempty
  | append_singleton front step ih =>
    obtain ⟨before, ends⟩ := List.forall_mem_append.mp written
    obtain ⟨ends, -⟩ := List.forall_mem_cons.mp ends
    by_cases alone : front = []
    · subst alone
      have text : chars ([] ++ [step]) = step.leadingChars := by simp [chars]
      rw [text] at orderly ⊢
      rcases ends.cases with ⟨name, rfl, name_written, leading, -⟩ | ⟨inner, -, leading, chars, -⟩
      · rw [leading] at orderly ⊢
        have occurs := (occursIn_iff frames.lone accepts).mpr name_written.member
        rw [PathSyntax.steps?_of_whole (split?_nameChars frames accepts name_written orderly), occurs,
          if_pos rfl, Step.keyStep_nameChars name_written]
        rfl
      · rw [leading, ← chars] at orderly ⊢
        exact @steps?_concat s pattern language [] step frames accepts before ends orderly
          (absurd rfl)
    · rw [chars_concat alone] at orderly ⊢
      have within : chars front <:+: chars front ++ step.chars := (List.prefix_append _ _).isInfix
      exact steps?_concat frames accepts before ends orderly fun some =>
        ih some before (orderly.mono within)

end Path
end PathEdit
