import PathEdit.Proofs.Path.Conventional
import PathEdit.Proofs.Path.Pasting

/-! Formats that describe one name wherever they stand, and others that fall apart in a path. -/
namespace PathEdit

open Regex

/-- A format that is a regular expression in itself, without alternatives outside of groups, and says
nothing about the text around a name. -/
structure NameFormat (format : String) (s : PathSyntax) (name : Pattern) : Prop where
  accepted : PathSyntax.ofFormat? format = some s
  read : (Expression.read? format.toList).map Expression.pattern = some name
  undivided : Reader.isDivided format.toList = false
  blind : name.looks = false

namespace NameFormat

variable {format : String} {s : PathSyntax} {name : Pattern} {word : List Char}

theorem exists_path (names : NameFormat format s name) : s.name = Frame.lone name ∧
    name.groups = [] ∧ ∃ loop, s.path = Frame.path loop name ∧ loop.groups = [] := by
  obtain ⟨e, read, rfl⟩ := Option.map_eq_some_iff.mp names.read
  exact Frame.path_of_format names.accepted read

theorem accepts (names : NameFormat format s name) : Accepts name name.language :=
  name.accepts_language names.blind names.exists_path.2.1

/-- A format of names that are not empty is read in the same way in all places. -/
theorem frames (names : NameFormat format s name) (other : name ≠ .empty) : s.Frames name := by
  obtain ⟨e, read, rfl⟩ := Option.map_eq_some_iff.mp names.read
  rcases Frame.frames_of_format names.accepted read names.undivided with rfl | frames
  · exact absurd rfl other
  · exact frames

theorem ne_empty (member : word ∈ name.language) (nonempty : word ≠ []) : name ≠ .empty := by
  rintro rfl
  exact nonempty member

/-- Names that are read as themselves are read as themselves when points join them. -/
theorem parse_joined (names : NameFormat format s name) {parts : List String} (nonempty : parts ≠ [])
    (plain : ∀ part ∈ parts, part ≠ "" ∧ ∀ c ∈ part.toList, c ∉ ['.', '[', ']', '"'])
    (alone : ∀ part ∈ parts, s.parse part = .ok [.key part]) :
    s.parse (".".intercalate parts) = .ok (parts.map .key) := by
  obtain ⟨lone, unnamed, loop, path, unlooped⟩ := names.exists_path
  have member : ∀ part ∈ parts, part.toList ∈ name.language := fun part present =>
    mem_of_parse lone path unlooped unnamed names.accepts (plain part present).2 (alone part present)
  obtain ⟨part, present⟩ := List.exists_mem_of_ne_nil parts nonempty
  have other := ne_empty (member part present) (by simpa using (plain part present).1)
  exact parse_intercalate (names.frames other) names.accepts nonempty plain member

theorem parse_plain {name : String} (plain : PathSyntax.isPlain name.toList = true)
    (occurs : s.name.occursIn name.toList = true) (unquoted : '"' ∉ name.toList) :
    s.parse name = .ok [.key name] := by
  rw [PathSyntax.parse_eq_ok_iff, PathSyntax.steps?_of_plain plain occurs, PathSyntax.keyStep,
    unquote_of_unquoted unquoted, String.ofList_toList]

/-- Names of small letters. -/
def lettersPattern : Pattern := .seq .empty (.plus true (.char (.range 97 122)))

def letters : PathSyntax :=
  ⟨Frame.path (Frame.loop false true lettersPattern) lettersPattern, Frame.lone lettersPattern⟩

theorem letters_names : NameFormat "[a-z]+" letters lettersPattern where
  accepted := by decide +kernel
  read := by decide +kernel
  undivided := by decide +kernel
  blind := rfl

theorem parse_joined_letters :
    letters.parse (".".intercalate ["ab", "c"]) = .ok [.key "ab", .key "c"] := by
  refine letters_names.parse_joined (List.cons_ne_nil _ _) (by simp) fun part present => ?_
  obtain rfl | rfl : part = "ab" ∨ part = "c" := by simpa using present
  · exact parse_plain (by decide) (by decide) (by decide)
  · exact parse_plain (by decide) (by decide) (by decide)

end NameFormat

namespace Grammar

theorem Spells.quotable {text : List Char} {name : String} (spells : Spells text name) :
    Identifier isQuotable name.toList := by
  cases spells with
  | plain word =>
    rw [String.toList_ofList]
    obtain ⟨first, rest⟩ := word
    exact .intro first fun d present => by simp [isQuotable, rest d present]
  | quoted word => rwa [String.toList_ofList]

theorem names_conventional : Conventional names where
  ne_nil := nil_notMem_names
  quoted member quote := by
    rcases mem_names_iff.mp member with ⟨word, rfl, name⟩ | name
    · exact ⟨word, rfl, name.notMem_of_quotable rfl⟩
    · exact absurd quote (name.notMem_of_plain rfl)
  bare member unquoted := by
    rcases mem_names_iff.mp member with ⟨word, rfl, name⟩ | name
    · exact absurd (by simp) unquoted
    · exact name.notMem_of_plain rfl
  canonical member := by
    obtain ⟨name, spells⟩ := member
    have same := congrArg String.toList (Step.key.inj spells.keyStep_eq)
    rw [String.toList_ofList] at same
    rw [same]
    exact ⟨name, Step.spells_nameChars spells.quotable⟩

theorem standard_names : NameFormat standardFormat PathSyntax.standard namePattern where
  accepted := PathSyntax.ofFormat?_standardFormat
  read := by decide +kernel
  undivided := by decide +kernel
  blind := rfl

theorem language_namePattern : namePattern.language = names :=
  standard_names.accepts.unique accepts_namePattern

end Grammar

/-! Formats that fall apart. -/

theorem parse_error {expression : String} {s : PathSyntax}
    (whole : (s.split? expression.toList).isNone = true)
    (other : s.name.occursIn expression.toList = false) :
    s.parse expression = .error (.invalidPath expression) := by
  rw [PathSyntax.parse, PathSyntax.parse?,
    PathSyntax.steps?_of_whole (Option.isNone_iff_eq_none.mp whole), other]
  rfl

theorem apply_get_of_map {found : Option α} (present : found.isSome = true) {f : α → β} {b : β}
    (known : found.map f = some b) : f (found.get present) = b := by
  obtain ⟨a, rfl, rfl⟩ := Option.map_eq_some_iff.mp known
  rfl

theorem read_divided : (PathSyntax.ofFormat? "a|b").map (fun s =>
    (s.name.occursIn "a".toList, s.name.occursIn "b".toList, (s.split? "a.b.a".toList).isNone,
      s.name.occursIn "a.b.a".toList)) = some (true, true, true, false) := by decide +kernel

theorem isSome_divided : (PathSyntax.ofFormat? "a|b").isSome = true := by
  rw [← Option.isSome_map, read_divided, Option.isSome_some]

/-- The syntax around two alternatives, which become alternatives of more than the name. -/
def divided : PathSyntax := (PathSyntax.ofFormat? "a|b").get isSome_divided

theorem parse_joined_divided :
    PathSyntax.ofFormat? "a|b" = some divided ∧ divided.parse "a" = .ok [.key "a"] ∧
      divided.parse "b" = .ok [.key "b"] ∧
      divided.parse (".".intercalate ["a", "b", "a"]) = .error (.invalidPath "a.b.a") := by
  have read := apply_get_of_map isSome_divided read_divided
  obtain ⟨first, second, whole, other⟩ := by simpa only [Prod.mk.injEq] using read
  have joined : ".".intercalate ["a", "b", "a"] = "a.b.a" := by decide
  refine ⟨(Option.some_get _).symm, ?_, ?_, ?_⟩
  · exact NameFormat.parse_plain (by decide) first (by decide)
  · exact NameFormat.parse_plain (by decide) second (by decide)
  · rw [joined]
    exact parse_error whole other

theorem read_enclosed : (PathSyntax.ofFormat? "\"[a-z]*\"").map (fun s =>
    (s.name.occursIn "\"a\"".toList, (s.split? "a".toList).isNone, s.name.occursIn "a".toList)) =
      some (true, true, false) := by decide +kernel

theorem isSome_enclosed : (PathSyntax.ofFormat? "\"[a-z]*\"").isSome = true := by
  rw [← Option.isSome_map, read_enclosed, Option.isSome_some]

/-- The syntax around names that must stand in quotes. -/
def enclosed : PathSyntax := (PathSyntax.ofFormat? "\"[a-z]*\"").get isSome_enclosed

/-- A canonical text drops quotes that a format asks for. -/
theorem parse_text_enclosed :
    PathSyntax.ofFormat? "\"[a-z]*\"" = some enclosed ∧
      enclosed.parse "\"a\"" = .ok [.key "a"] ∧
      enclosed.parse (Path.text [.key "a"]) = .error (.invalidPath (Path.text [.key "a"])) := by
  have read := apply_get_of_map isSome_enclosed read_enclosed
  obtain ⟨quoted, whole, other⟩ := by simpa only [Prod.mk.injEq] using read
  have text : Path.text [.key "a"] = "a" := by decide
  rw [text]
  refine ⟨(Option.some_get _).symm, ?_, parse_error whole other⟩
  rw [PathSyntax.parse_eq_ok_iff, @PathSyntax.steps?_of_plain enclosed _ (by decide) quoted]
  rfl

/-- Every split leaves less to be split, so that splitting comes to an end, where the format is a
regular expression in itself. -/
theorem splitting_ends {format : String} {s : PathSyntax}
    (accepted : PathSyntax.ofFormat? format = some s)
    (alone : (Expression.read? format.toList).isSome = true) :
    (∀ text split, s.split? text = some split → split.parent.length < text.length) ∧
      ∀ text, (s.steps? text).isSome = true := by
  obtain ⟨e, read⟩ := Option.isSome_iff_exists.mp alone
  obtain ⟨-, unnamed, loop, path, unlooped⟩ := Frame.path_of_format accepted read
  have shorter {text : List Char} {split : PathSyntax.Split} (found : s.split? text = some split) :
      split.parent.length < text.length := PathSyntax.length_parent_lt path unlooped unnamed found
  exact ⟨fun _ _ => shorter, PathSyntax.isSome_steps? shorter⟩

theorem splitting_ends_letters : PathSyntax.ofFormat? "[a-z]+" = some NameFormat.letters ∧
    (Expression.read? "[a-z]+".toList).isSome = true ∧
      (NameFormat.letters.steps? "ab.c".toList).isSome = true := by
  have alone : (Expression.read? "[a-z]+".toList).isSome = true := by
    rw [← Option.isSome_map, NameFormat.letters_names.read, Option.isSome_some]
  have accepted := NameFormat.letters_names.accepted
  exact ⟨accepted, alone, (splitting_ends accepted alone).2 _⟩

theorem read_inverted : (PathSyntax.ofFormat? "x)|(").map (fun s =>
    (s.split? ['.', 'x']).map PathSyntax.Split.parent) = some (some ['.', 'x']) := by decide +kernel

theorem isSome_inverted : (PathSyntax.ofFormat? "x)|(").isSome = true := by
  rw [← Option.isSome_map, read_inverted, Option.isSome_some]

/-- The syntax around a format that closes the group it stands in and opens another one. -/
def inverted : PathSyntax := (PathSyntax.ofFormat? "x)|(").get isSome_inverted

/-- Nothing is cut off of a text, so that it is split again and again. -/
theorem steps?_inverted :
    PathSyntax.ofFormat? "x)|(" = some inverted ∧
      (inverted.split? ['.', 'x']).map PathSyntax.Split.parent = some ['.', 'x'] ∧
      inverted.steps? ['.', 'x'] = none := by
  have read := apply_get_of_map isSome_inverted read_inverted
  have kept : (inverted.split? ['.', 'x']).map PathSyntax.Split.parent = some ['.', 'x'] := read
  refine ⟨(Option.some_get _).symm, kept, Option.eq_none_iff_forall_ne_some.mpr fun result steps => ?_⟩
  obtain ⟨split, found, parent⟩ := Option.map_eq_some_iff.mp kept
  refine @PathSyntax.steps?_induct inverted ['.', 'x'] (fun text _ => text ≠ ['.', 'x']) ?_ ?_ result
    steps rfl
  · rintro _ whole rfl
    simp [PathSyntax.isPlain, found] at whole
  · rintro _ split' before? found' behind rfl
    obtain rfl := Option.some.inj (found.symm.trans found')
    rcases behind with ⟨empty, -⟩ | other
    · exact List.cons_ne_nil _ _ (parent.symm.trans empty)
    · exact other parent

end PathEdit
