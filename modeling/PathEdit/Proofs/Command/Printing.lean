import Mathlib.Data.List.DropRight
import PathEdit.Command.Program
import PathEdit.Proofs.Command.Rerun
import PathEdit.Proofs.Yaml.Ending

/-! What a run prints. White space at the end of the rendered document is not printed, and a line
break is: a document that ends solidly is printed as it is. -/
namespace PathEdit

namespace Json

theorem Layout.exists_enclose_concat (layout : Layout) (level : Nat) (opening closing : Char)
    (parts : List (List Char)) :
    ∃ texts, layout.enclose level opening closing parts = texts ++ [closing] := by
  cases parts with
  | nil => exact ⟨[opening], rfl⟩
  | cons part rest => exact ⟨opening :: _, rfl⟩

/-- The text of a container ends with its bracket. -/
theorem isSolid_chars (layout : Layout) {value : Value} (container : value.isContainer = true) :
    Unicode.isSolid (chars layout value) = true := by
  obtain ⟨tree, ordered⟩ := value
  cases ordered with
  | null | boolean | integer | float | string => cases container
  | @array items =>
    obtain ⟨texts, shape⟩ := layout.exists_enclose_concat 0 '[' ']' (itemsChars layout 1 items)
    rw [chars, treeChars, shape]
    exact Unicode.isSolid_concat (by decide) texts
  | @object entries =>
    obtain ⟨texts, shape⟩ := layout.exists_enclose_concat 0 '\x7b' '\x7d'
      (entriesChars layout 1 entries)
    rw [chars, treeChars, shape]
    exact Unicode.isSolid_concat (by decide) texts

end Json

namespace Command

open Unicode (chomp ended isSolid)

/-- White space at the end is made up for by a line break just when the text ends solidly. -/
theorem trimEnd_ended_iff {text : List Char} (some : chomp text ≠ []) :
    trimEnd text ++ ['\n'] = ended text ↔ isSolid text = true := by
  have trimmed : trimEnd text = trimEnd (chomp text) := by
    rw [chomp]
    split
    · rename_i last
      obtain ⟨front, rfl⟩ := List.getLast?_eq_some_iff.mp last
      rw [List.dropLast_concat]
      exact List.rdropWhile_concat_pos _ _ _ rfl
    · rfl
  rw [Unicode.ended_eq, List.append_left_inj, trimmed, isSolid, List.getLast?_eq_some_getLast some]
  refine List.rdropWhile_eq_self_iff.trans ?_
  simp [some]

variable {run : RunOptions} {output : RunOutput}

/-- A document is printed as it is just when it ends solidly. -/
theorem stdout_eq_ended_iff_isSolid (outcome : run.execute = .ok output)
    (some : Unicode.chomp output.text.toList ≠ []) :
    (Outcome.ofRun run.execute).stdout = String.ofList (ended output.text.toList) ↔
      isSolid output.text.toList = true := by
  rw [outcome, Outcome.ofRun, String.ofList_inj]
  exact trimEnd_ended_iff some

/-- A run prints the document that it renders, with a line break behind it when it ends with none,
except for a YAML document whose last leaf is a string without quotes that does not end solidly. -/
theorem stdout_eq_ended_iff (outcome : run.execute = .ok output) :
    ∃ success : run.Success output,
      (Outcome.ofRun run.execute).stdout = String.ofList (ended output.text.toList) ↔
        (run.output = .yaml → ∀ path s, success.result.leaves.getLast? = some (path, .string s) →
          Yaml.endsSolid s = true) := by
  obtain ⟨success⟩ := RunOptions.exists_success outcome
  refine ⟨success, ?_⟩
  have container := success.isContainer_result
  have text : output.text = run.render success.result := congrArg RunOutput.text success.rendered
  cases form : run.output with
  | json layout =>
    have printed : output.text = Json.print layout success.result := by
      rw [text, RunOptions.render, form]
    have chars : output.text.toList = Json.chars layout success.result := by
      rw [printed, Json.print, String.toList_ofList]
    have solid : isSolid output.text.toList = true := chars ▸ Json.isSolid_chars layout container
    rw [stdout_eq_ended_iff_isSolid outcome (Unicode.chomp_ne_nil_of_isSolid solid)]
    exact iff_of_true solid fun other => Output.noConfusion other
  | yaml =>
    have printed : output.text = Yaml.print success.result := by
      rw [text, RunOptions.render, form]
    have chars : output.text.toList = Yaml.chars success.result := by
      rw [printed, Yaml.print, String.toList_ofList]
    obtain ⟨some, path, leaf, last, solid⟩ := Yaml.isSolid_chars container
    rw [stdout_eq_ended_iff_isSolid outcome (chars ▸ some), chars, solid, last]
    constructor
    · intro all _ path s same
      obtain ⟨-, rfl⟩ := Prod.mk.inj (Option.some.inj same)
      exact all
    · intro each
      cases found : leaf.string? with
      | none => rfl
      | some s => exact each rfl path s (by rw [Value.eq_string_of_string? found])

namespace RunOptions

/-- The run that renders a JSON text in YAML. -/
def inYaml (text : String) : RunOptions :=
  { input := some text, array := false, options := .standard, sets := [], unsets := []
    output := .yaml }

theorem execute_inYaml {text : String} {root : Value} (read : Json.read? text = some root)
    (container : root.isContainer = true) :
    (inYaml text).execute = .ok ⟨Yaml.print root, []⟩ := by
  have accepted : PathSyntax.ofFormat? (inYaml text).options.format = some .standard :=
    PathSyntax.ofFormat?_standardFormat
  have begins : ((inYaml text).again text).root = .ok root := by
    simp [inYaml, again, RunOptions.root, read, container]
  have outcome : ((inYaml text).again text).execute = .ok ⟨(inYaml text).render root, []⟩ :=
    execute_again accepted begins
  exact outcome

end RunOptions

/-- A last string of two lines is a block, printed with the line break at its end. -/
theorem stdout_eq_ended_iff_block :
    let run := RunOptions.inYaml "\x7b\"a\":[1,\"x\\ny\\n\"]\x7d"
    let output : RunOutput := ⟨"a:\n- 1\n- |\n  x\n  y\n", []⟩
    run.execute = .ok output ∧ ∃ success : run.Success output,
      (Outcome.ofRun run.execute).stdout = String.ofList (ended output.text.toList) ↔
        (run.output = .yaml → ∀ path s, success.result.leaves.getLast? = some (path, .string s) →
          Yaml.endsSolid s = true) := by
  intro run output
  have read : Json.read? "\x7b\"a\":[1,\"x\\ny\\n\"]\x7d" =
      some (.object (.ofList [("a", .array [.integer 1, .string "x\ny\n"])])) := by decide +kernel
  have text : Yaml.print (.object (.ofList [("a", .array [.integer 1, .string "x\ny\n"])])) =
      "a:\n- 1\n- |\n  x\n  y\n" := by decide +kernel
  have outcome : run.execute = .ok output := by
    rw [RunOptions.execute_inYaml read rfl, text]
  exact ⟨outcome, stdout_eq_ended_iff outcome⟩

/-- A last string that ends with an empty line: the line is in the document, and is not printed. -/
theorem stdout_ne_ended :
    let run := RunOptions.inYaml "\x7b\"a\":\"x\\n\\n\"\x7d"
    let text := "a: |+\n  x\n\n"
    run.execute = .ok ⟨text, []⟩ ∧ (Outcome.ofRun run.execute).stdout = "a: |+\n  x\n" ∧
      (Outcome.ofRun run.execute).stdout ≠ String.ofList (ended text.toList) := by
  intro run text
  have read : Json.read? "\x7b\"a\":\"x\\n\\n\"\x7d" =
      some (.object (.ofList [("a", .string "x\n\n")])) := by decide +kernel
  have rendered : Yaml.print (.object (.ofList [("a", .string "x\n\n")])) = text := by
    decide +kernel
  have outcome : run.execute = .ok ⟨text, []⟩ := by
    rw [RunOptions.execute_inYaml read rfl, rendered]
  have printed : (Outcome.ofRun run.execute).stdout = "a: |+\n  x\n" := by
    rw [outcome]
    decide +kernel
  refine ⟨outcome, printed, ?_⟩
  rw [printed]
  decide +kernel

end Command
end PathEdit
