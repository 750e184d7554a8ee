import PathEdit.Proofs.Edit.Step

/-! Writing at a path. What is found at the path afterwards is what was written there, and a second
write at the same path finds just that, in the same places, so that two writes come to one. -/
namespace PathEdit

namespace Value

variable {value old : Value} {f : Value → Value}

/-- A second write at a path changes what the first one has put there. -/
theorem write_write (f g : Value → Value) (path : Path) (value : Value) :
    (value.write f path).write g path = value.write (fun old => g (f old)) path := by
  induction path generalizing value with
  | nil => rfl
  | cons step path ih =>
    have below : write g path ∘ write f path = write (fun old => g (f old)) path := funext ih
    cases step with
    | key name =>
      simp only [write, fields_object, Fields.get?_insert, if_true, Option.getD_some,
        Fields.insert_insert, ih]
    | position index =>
      -- the array is long enough since the first write
      have long : index.toNat + 1 ≤
          ((padded value.items (index.toNat + 1)).modify index.toNat (write f path)).length := by
        rw [List.length_modify, length_padded]
        omega
      simp only [write, items_array, padded_of_length_le long, List.modify_modify_eq, below]
    | wildcard => simp only [write, items_array, List.map_map, below]

theorem follow?_null (path : Path) : (null.follow? path).getD null = null := by
  cases path with
  | nil => rfl
  | cons step => cases step <;> rfl

/-- What is found where something was written is what was written. -/
theorem follow?_write (f : Value → Value) {path : Path} (exact : .wildcard ∉ path) (value : Value) :
    (value.write f path).follow? path = some (f ((value.follow? path).getD null)) := by
  induction path generalizing value with
  | nil => rfl
  | cons step path ih =>
    have first : step ≠ .wildcard := fun same => exact (same ▸ List.mem_cons_self)
    have further : .wildcard ∉ path := fun later => exact (List.mem_cons_of_mem _ later)
    rw [follow?_cons, write_cons, child?_write first, Option.bind_some, ih further, follow?_cons]
    -- what is missing is made from a null, in which nothing but a null is found
    cases value.child? step with
    | none => rw [Option.getD_none, follow?_null, Option.bind_none, Option.getD_none]
    | some child => rfl

/-- Nothing changes where a value is written over itself. -/
theorem write_of_follow? {path : Path} (found : value.follow? path = some old)
    (same : f old = old) : value.write f path = value := by
  induction path generalizing value with
  | nil =>
    obtain rfl := Option.some.inj found
    exact same
  | cons step path ih =>
    obtain ⟨child, there, below⟩ := exists_child found
    rw [write_cons]
    exact write_of_child? there (ih below)

end Value

namespace Operation

variable {operation : Operation}

/-- Whether the operation writes, and so makes what is missing on its way. -/
def writes : Operation → Bool
  | set _ | apply _ => true
  | unset => false

/-- What a write puts in the place of a value. -/
def produce : Operation → Value → Value
  | set value, _ => value
  | apply f, current => f current
  | unset, current => current

theorem onPath_of_writes (writes : operation.writes = true) (path : Path) (root : Value) :
    operation.onPath path root = root.write operation.produce path := by
  cases operation with
  | set | apply => rfl
  | unset => cases writes

end Operation

namespace Edit

variable {path : Path} {f g : Operation} {root : Value}

theorem attempt_attempt (steps : path ≠ []) (first : f.writes = true) (second : g.writes = true)
    (root : Value) : attempt (attempt root ⟨path, f⟩) ⟨path, g⟩ =
      attempt root ⟨path, .apply fun value => g.produce (f.produce value)⟩ := by
  by_cases fits : misfit? path root = none
  · have still := (@misfit?_attempt ⟨path, f⟩ steps path root).trans fits
    rw [attempt_of_fits steps still, attempt_of_fits steps fits, attempt_of_fits steps fits,
      Operation.onPath_of_writes first, Operation.onPath_of_writes second, Value.write_write]
    rfl
  · rw [@attempt_of_misfit ⟨path, f⟩ root steps fits, attempt_of_misfit steps fits,
      attempt_of_misfit steps fits]

/-- Two writes at a path, through wildcards or not, come to one: it answers as each of them, and
leaves the same root. So the value that is set at a path last is the one that counts, and setting it
again makes no difference. -/
theorem carryOut_writes (steps : path ≠ []) (first : f.writes = true) (second : g.writes = true)
    (root : Value) :
    let one : Edit := ⟨path, f⟩
    let other : Edit := ⟨path, g⟩
    let fused : Edit := ⟨path, .apply fun value => g.produce (f.produce value)⟩
    (carryOut [one, other] root = attempt root fused ∧ one.answer root = fused.answer root ∧
      other.answer (attempt root one) = fused.answer root) ∧
    ∀ value, let last : Edit := ⟨path, .set value⟩
      carryOut [one, last] root = attempt root last ∧
        carryOut [last, last] root = attempt root last := by
  intro one other fused
  have answer (edit : Edit) (same : edit.path = path) : edit.answer root = fused.answer root := by
    rw [answer_of_steps (same ▸ steps), answer_of_steps steps, same]
  -- applying a function that is constant is setting its value
  have overwritten (before : Operation) (writes : before.writes = true) (value : Value) :
      carryOut [⟨path, before⟩, ⟨path, .set value⟩] root = attempt root ⟨path, .set value⟩ :=
    (attempt_attempt steps writes rfl root).trans rfl
  refine ⟨⟨attempt_attempt steps first second root, answer one rfl, ?_⟩, fun value => ⟨?_, ?_⟩⟩
  · exact (answer_attempt steps steps root).trans (answer other rfl)
  · exact overwritten f first value
  · exact overwritten (.set value) rfl value

/-- A flag that is set in every element of a list, one of which is too short, and then wrapped. -/
theorem carryOut_writes_everywhere :
    let root := Value.object (.ofList [("a", .array [.null, .array [.null, .boolean true]])])
    let path : Path := [.key "a", .wildcard, .position 1]
    let wrap (value : Value) := Value.array [value]
    let item := Value.array [.null, .array [.boolean false]]
    Edit.carryOut [⟨path, .set (.boolean false)⟩, ⟨path, .apply wrap⟩] root =
      .object (.ofList [("a", .array [item, item])]) := by
  intro root path wrap item
  have steps : path ≠ [] := List.cons_ne_nil _ _
  obtain ⟨⟨fused, -⟩, -⟩ :=
    carryOut_writes steps (f := .set (.boolean false)) (g := .apply wrap) rfl rfl root
  exact fused.trans (by decide)

/-- A write through a path without wildcards goes through when the path fits. What is found at the
path afterwards is what the operation makes of what was found before, or of null if nothing was. A
value that is written over itself leaves the root as it was. -/
theorem follow?_run {step : Step} (fits : root.kind = step.container)
    (inside : ∀ index, .position index ∈ step :: path → index ≤ maxPosition)
    (exact : .wildcard ∉ step :: path) (writes : f.writes = true) :
    ∃ after, run ⟨step :: path, f⟩ root = .ok after ∧
      after.follow? (step :: path) = some (f.produce ((root.follow? (step :: path)).getD .null)) ∧
      ∀ old, root.follow? (step :: path) = some old → f.produce old = old → after = root := by
  have steps : step :: path ≠ [] := List.cons_ne_nil _ _
  refine ⟨root.write f.produce (step :: path), ?_, Value.follow?_write _ exact root, ?_⟩
  · rw [run_of_steps steps, misfit?_eq_none_iff.mpr ⟨inside, fits⟩]
    exact congrArg Except.ok (Operation.onPath_of_writes writes _ _)
  · exact fun old found same => Value.write_of_follow? found same

/-- An element beyond the end of a list, and an entry in it, both of which are made. -/
theorem follow?_run_missing :
    let root := Value.object (.ofList [("a", .array [.boolean true])])
    let path : Path := [.key "a", .position 2, .key "b"]
    let wrap (value : Value) := Value.array [value]
    ∃ after, run ⟨path, .apply wrap⟩ root = .ok after ∧
      after.follow? path = some (.array [.null]) := by
  intro root path wrap
  have inside : ∀ index, .position index ∈ path → index ≤ maxPosition := by
    intro index member
    obtain rfl : index = 2 := by simpa [path] using member
    decide
  obtain ⟨after, outcome, found, -⟩ := follow?_run (f := .apply wrap)
    (show root.kind = (Step.key "a").container from rfl) inside (by decide) rfl
  exact ⟨after, outcome, found.trans (by decide)⟩

end Edit
end PathEdit
