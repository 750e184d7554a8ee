import PathEdit.Proofs.Path.Canonical
import PathEdit.Proofs.Path.Ending

/-! Names of a syntax that stand for themselves wherever they stand: joined by points, and in the
canonical texts of what expressions are read as. -/
namespace PathEdit

open Regex PathEdit.Frame
open scoped Computability

/-- Names that canonical texts can be written with. A name is not empty; quotes stand around it or
nowhere, brackets between quotes only; and its canonical text is a name, too. -/
structure Conventional (language : Language Char) : Prop where
  ne_nil : [] ∉ language
  quoted (member : word ∈ language) (quote : '"' ∈ word) :
    ∃ inner, word = '"' :: (inner ++ ['"']) ∧ '"' ∉ inner
  bare (member : word ∈ language) (unquoted : '"' ∉ word) : '[' ∉ word
  canonical (member : word ∈ language) : Step.nameChars (PathSyntax.unquote word) ∈ language

variable {s : PathSyntax} {pattern : Pattern} {language : Language Char} {path : Path}
  {word text : List Char} {step : Step} {x : Option Step}

theorem unquote_of_unquoted (unquoted : '"' ∉ word) : PathSyntax.unquote word = word := by
  unfold PathSyntax.unquote
  split
  · exact absurd (by simp) unquoted
  · rfl

theorem unquote_quoted : PathSyntax.unquote ('"' :: (word ++ ['"'])) = word := by
  simp [PathSyntax.unquote]

namespace Conventional

theorem orderly (conventional : Conventional language) (text : List Char) :
    Orderly language text where
  quoted member _ := conventional.quoted member
  bare member _ := conventional.bare member

theorem written (conventional : Conventional language) (member : word ∈ language) :
    Written language (PathSyntax.unquote word) where
  member := conventional.canonical member
  unquoted := by
    by_cases quote : '"' ∈ word
    · obtain ⟨inner, rfl, unquoted⟩ := conventional.quoted member quote
      rwa [unquote_quoted]
    · rwa [unquote_of_unquoted quote]
  ne_nil empty := by
    have canonical := conventional.canonical member
    rw [empty] at canonical
    exact conventional.ne_nil canonical

theorem keyStep_writtenIn (conventional : Conventional language) (member : word ∈ language) :
    (PathSyntax.keyStep word).WrittenIn language := by
  change Written language (String.ofList (PathSyntax.unquote word)).toList
  rw [String.toList_ofList]
  exact conventional.written member

theorem writtenIn_of_last (conventional : Conventional language) (last : Last language text x)
    (read : x = some step) : step.WrittenIn language := by
  cases last with
  | name member => exact Option.some.inj read ▸ conventional.keyStep_writtenIn member
  | index member => cases Grammar.indexes_iff.mpr ⟨member, read⟩ <;> exact trivial

/-- All that is read is written with names of the language. -/
theorem writtenIn_of_steps? (conventional : Conventional language) (frames : s.Frames pattern)
    (accepts : Accepts pattern language) (steps : s.steps? text = some (some path)) :
    path ≠ [] ∧ ∀ step ∈ path, step.WrittenIn language := by
  have all := @PathSyntax.steps?_induct s text
    (fun _ result => ∀ path ∈ result, path ≠ [] ∧ ∀ step ∈ path, step.WrittenIn language)
  refine all ?_ ?_ steps path rfl
  · intro text _ path found
    by_cases occurs : s.name.occursIn text = true
    · rw [if_pos occurs] at found
      obtain rfl := Option.some.inj found
      have member := (occursIn_iff frames.lone accepts).mp occurs
      simpa using conventional.keyStep_writtenIn member
    · simp [occurs] at found
  · intro text split before? cut parent path found
    obtain ⟨before, rfl, found⟩ := Option.bind_eq_some_iff.mp found
    obtain ⟨step, read, rfl⟩ := Option.map_eq_some_iff.mp found
    obtain ⟨_, _, cut, -⟩ := cut_of_split? frames accepts cut
    have last := conventional.writtenIn_of_last cut.ends read
    have front : ∀ step ∈ before, step.WrittenIn language := by
      rcases parent with ⟨-, none⟩ | parent
      · obtain rfl := Option.some.inj none
        simp
      · exact (parent before rfl).2
    refine ⟨by simp, fun step present => ?_⟩
    rcases List.mem_append.mp present with early | late
    · exact front step early
    · exact List.mem_singleton.mp late ▸ last

theorem parse_text (conventional : Conventional language) (frames : s.Frames pattern)
    (accepts : Accepts pattern language) {expression : String}
    (parsed : s.parse expression = .ok path) : s.parse path.text = .ok path := by
  rw [PathSyntax.parse_eq_ok_iff] at parsed ⊢
  obtain ⟨nonempty, written⟩ := conventional.writtenIn_of_steps? frames accepts parsed
  rw [Path.text, String.toList_ofList]
  exact Path.steps?_chars frames accepts nonempty written (conventional.orderly _)

end Conventional

/-! Names joined by points. -/

variable {names : List String}

theorem nameChars_of_pointless (pointless : '.' ∉ word) : Step.nameChars word = word := by
  simp [Step.nameChars, pointless]

/-- Names that are joined by points are written as they are. -/
theorem chars_names (pointless : ∀ name ∈ names, '.' ∉ name.toList) :
    Path.chars (names.map .key) = (".".intercalate names).toList := by
  rw [String.toList_intercalate]
  induction names with
  | nil => rfl
  | cons first others ih =>
    obtain ⟨pointless_first, pointless⟩ := List.forall_mem_cons.mp pointless
    have plain := nameChars_of_pointless pointless_first
    cases others with
    | nil => simp [Path.chars, Step.leadingChars, plain]
    | cons next others =>
      have behind := ih pointless
      simp only [List.map_cons] at behind ⊢
      rw [List.intercalate_cons_cons, ← behind]
      simp [Path.chars, Step.leadingChars, Step.chars, plain]

theorem notMem_chars_names {c : Char} (pointless : ∀ name ∈ names, '.' ∉ name.toList)
    (other : c ≠ '.') (absent : ∀ name ∈ names, c ∉ name.toList) :
    c ∉ Path.chars (names.map .key) := by
  have inside {name : String} (present : name ∈ names) :
      c ∉ Step.nameChars name.toList := by
    rw [nameChars_of_pointless (pointless name present)]
    exact absent name present
  cases names with
  | nil => simp [Path.chars]
  | cons first others =>
    have behind : ∀ name ∈ others, c ∉ Step.nameChars name.toList := fun name present =>
      inside (List.mem_cons_of_mem _ present)
    simpa [Path.chars, Step.leadingChars, Step.chars, other, inside] using behind

/-- A text without points and brackets is read as a name or not at all. -/
theorem mem_of_parse {name : String} {loop : Pattern} (lone : s.name = lone pattern)
    (path_eq : s.path = Frame.path loop pattern) (unnamed : loop.groups = [])
    (unnamed' : pattern.groups = []) (accepts : Accepts pattern language)
    (plain : ∀ c ∈ name.toList, c ∉ ['.', '[', ']', '"'])
    (alone : s.parse name = .ok path) : name.toList ∈ language := by
  have whole : s.split? name.toList = none := by
    refine Option.eq_none_iff_forall_ne_some.mpr fun split found => ?_
    obtain ⟨front, c, last, whole, joins, -⟩ :=
      PathSyntax.parent_of_split? path_eq unnamed unnamed' found
    refine plain c (by simp [whole]) ?_
    rcases joins with rfl | rfl <;> decide
  rw [PathSyntax.parse_eq_ok_iff, PathSyntax.steps?_of_whole whole, Option.some_inj,
    Option.ite_none_right_eq_some] at alone
  exact (occursIn_iff lone accepts).mp alone.1

/-- Names that are joined by points are read one by one. -/
theorem parse_intercalate (frames : s.Frames pattern) (accepts : Accepts pattern language)
    (nonempty : names ≠ [])
    (plain : ∀ name ∈ names, name ≠ "" ∧ ∀ c ∈ name.toList, c ∉ ['.', '[', ']', '"'])
    (member : ∀ name ∈ names, name.toList ∈ language) :
    s.parse (".".intercalate names) = .ok (names.map .key) := by
  have absent {c : Char} (joins : c ∈ ['.', '[', ']', '"']) : ∀ name ∈ names, c ∉ name.toList :=
    fun name present inside => (plain name present).2 c inside joins
  have pointless := absent (c := '.') (by decide)
  have written : ∀ step ∈ names.map Step.key, step.WrittenIn language := by
    intro step present
    obtain ⟨name, inside, rfl⟩ := List.mem_map.mp present
    refine ⟨?_, absent (c := '"') (by decide) name inside, ?_⟩
    · rw [nameChars_of_pointless (pointless name inside)]
      exact member name inside
    · simpa using (plain name inside).1
  have unquoted := notMem_chars_names (c := '"') pointless (by decide) (absent (by decide))
  have bracketless := notMem_chars_names (c := '[') pointless (by decide) (absent (by decide))
  have orderly : Orderly language (Path.chars (names.map .key)) :=
    { quoted := fun _ inside quote => absurd (inside.subset quote) unquoted
      bare := fun _ inside _ bracket => bracketless (inside.subset bracket) }
  rw [PathSyntax.parse_eq_ok_iff, ← chars_names pointless]
  exact Path.steps?_chars frames accepts (by simpa using nonempty) written orderly

end PathEdit
