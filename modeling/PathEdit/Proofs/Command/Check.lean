import PathEdit.Command.Check
import PathEdit.Proofs.Command.Rerun
import PathEdit.Proofs.Path.Formats

/-! What checking paths prints can be checked again. -/
namespace PathEdit.Command

open Regex

namespace CheckedPath

variable {s : PathSyntax} {strict : Bool} {paths texts : List String} {checked : List CheckedPath}

/-- The canonical text that was printed for a path, if it is one. -/
def canonical? (checked : CheckedPath) : Option String := checked.result.toOption

theorem canonical?_check {path text : String} (found : (check s path).canonical? = some text) :
    ∃ steps, s.parse path = .ok steps ∧ text = steps.text := by
  rw [canonical?, check] at found
  cases parsed : s.parse path with
  | error => simp [parsed, Except.map, Except.toOption] at found
  | ok steps => exact ⟨steps, rfl, by simpa [parsed, Except.map, Except.toOption, eq_comm] using found⟩

theorem checkAll_cons (path : String) : checkAll strict s (path :: paths) =
    match strict, (check s path).result with
    | true, .error e => .error e
    | _, _ => (checkAll strict s paths).map (check s path :: ·) := rfl

/-- Every path is checked on its own, where checking comes to an end. -/
theorem eq_map_of_checkAll (succeeds : checkAll strict s paths = .ok checked) :
    checked = paths.map (check s) := by
  induction paths generalizing checked with
  | nil => exact (Except.ok.inj succeeds).symm
  | cons path rest ih =>
    rw [checkAll_cons] at succeeds
    split at succeeds
    · cases succeeds
    · obtain ⟨others, further, rfl⟩ := exists_of_map_ok succeeds
      rw [List.map_cons, ← ih further]

/-- Checking comes to an end when all paths are valid. -/
theorem checkAll_of_valid (valid : ∀ path ∈ paths, ∃ text, (check s path).result = .ok text) :
    checkAll strict s paths = .ok (paths.map (check s)) := by
  induction paths with
  | nil => rfl
  | cons path rest ih =>
    obtain ⟨⟨text, first⟩, others⟩ := List.forall_mem_cons.mp valid
    rw [checkAll_cons, first, ih others]
    cases strict <;> rfl

end CheckedPath

variable {s : PathSyntax} {pattern : Pattern} {language : Language Char} {options : Options}
  {paths : List String} {checked : List CheckedPath}

/-- What was printed for the valid ones of some paths is printed for itself. -/
theorem executeCheck_again (accepted : PathSyntax.ofFormat? options.format = some s)
    (frames : s.Frames pattern) (accepts : Accepts pattern language)
    (conventional : Conventional language) (succeeds : executeCheck options paths = .ok checked) :
    executeCheck options (checked.filterMap CheckedPath.canonical?) =
      .ok ((checked.filterMap CheckedPath.canonical?).map fun text => ⟨text, .ok text⟩) := by
  unfold executeCheck at succeeds ⊢
  simp only [accepted] at succeeds ⊢
  obtain rfl := CheckedPath.eq_map_of_checkAll succeeds
  have again {text : String}
      (printed : text ∈ (paths.map (CheckedPath.check s)).filterMap CheckedPath.canonical?) :
      CheckedPath.check s text = ⟨text, .ok text⟩ := by
    obtain ⟨_, present, printed⟩ := List.mem_filterMap.mp printed
    obtain ⟨path, -, rfl⟩ := List.mem_map.mp present
    obtain ⟨steps, parsed, rfl⟩ := CheckedPath.canonical?_check printed
    simp [CheckedPath.check, conventional.parse_text frames accepts parsed, Except.map]
  rw [CheckedPath.checkAll_of_valid fun text printed => ⟨text, by rw [again printed]⟩]
  exact congrArg Except.ok (List.map_congr_left fun text printed => again printed)

/-- Canonical texts are read as the paths that they were written for, and checked again they pass as
they are. -/
theorem executeCheck_canonical {name : Pattern} (names : NameFormat options.format s name)
    (conventional : Conventional name.language) :
    (∀ expression path, s.parse expression = .ok path → s.parse path.text = .ok path) ∧
      ∀ paths checked, executeCheck options paths = .ok checked →
        executeCheck options (checked.filterMap CheckedPath.canonical?) =
          .ok ((checked.filterMap CheckedPath.canonical?).map fun text => ⟨text, .ok text⟩) := by
  have other : name ≠ .empty := by
    rintro rfl
    exact conventional.ne_nil rfl
  have frames := names.frames other
  exact ⟨fun _ _ => conventional.parse_text frames names.accepts,
    fun _ _ => executeCheck_again names.accepted frames names.accepts conventional⟩

theorem parse_quoted :
    PathSyntax.standard.parse "\"a\".\"b.c\"" = .ok [.key "a", .key "b.c"] := by
  rw [Grammar.parse_eq_ok_iff]
  have first : Grammar.Denotes ['"', 'a', '"'] [.key "a"] :=
    .head (.name (@Grammar.Spells.quoted ['a'] (by decide)))
  exact first.tail (.name (@Grammar.Spells.quoted ['b', '.', 'c'] (by decide)))

theorem executeCheck_single (accepted : PathSyntax.ofFormat? options.format = some s)
    {expression : String} {path : Path} (parsed : s.parse expression = .ok path) :
    executeCheck options [expression] = .ok [⟨expression, .ok path.text⟩] := by
  have checked : CheckedPath.check s expression = ⟨expression, .ok path.text⟩ := by
    rw [CheckedPath.check, parsed]
    rfl
  have valid : ∀ path' ∈ [expression], ∃ text, (CheckedPath.check s path').result = .ok text := by
    intro _ present
    rw [List.mem_singleton.mp present, checked]
    exact ⟨_, rfl⟩
  unfold executeCheck
  simp only [accepted]
  rw [CheckedPath.checkAll_of_valid valid, List.map_singleton, checked]

theorem executeCheck_canonical_quoted :
    executeCheck .standard ["\"a\".\"b.c\""] = .ok [⟨"\"a\".\"b.c\"", .ok "a.\"b.c\""⟩] ∧
      PathSyntax.standard.parse "a.\"b.c\"" = .ok [.key "a", .key "b.c"] ∧
      executeCheck .standard ["a.\"b.c\""] = .ok [⟨"a.\"b.c\"", .ok "a.\"b.c\""⟩] := by
  obtain ⟨reread, again⟩ := @executeCheck_canonical PathSyntax.standard .standard
    Grammar.namePattern Grammar.standard_names
    (Grammar.language_namePattern ▸ Grammar.names_conventional)
  have text : Path.text [.key "a", .key "b.c"] = "a.\"b.c\"" := by decide
  have first := @executeCheck_single PathSyntax.standard .standard Grammar.standard_names.accepted
    _ _ parse_quoted
  have second := reread _ _ parse_quoted
  have third := again _ _ first
  rw [text] at first second third
  exact ⟨first, second, third⟩

end PathEdit.Command
