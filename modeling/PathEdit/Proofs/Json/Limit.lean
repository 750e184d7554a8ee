import PathEdit.Proofs.Json.RoundTrip

/-! The limit of nesting: a value deeper than the reader goes is not read back from its text. -/
namespace PathEdit.Json

variable {number? : Binary64 → Option Value} {layout : Layout}

/-- A step that succeeds on a whole list succeeds on each element. -/
theorem isSome_of_mapM {step : α → Option β} {as : List α} (whole : (as.mapM step).isSome = true) :
    ∀ a ∈ as, (step a).isSome = true := by
  induction as with
  | nil => exact nofun
  | cons a as ih =>
    rw [List.mapM_cons] at whole
    cases here : step a with
    | none => simp [here] at whole
    | some b =>
      cases there : as.mapM step with
      | none => simp [here, there] at whole
      | some rest => simpa [here] using ih (by simp [there])

/-- Only trees within the limit are read back. -/
theorem depth_le_of_reread? {tree : Tree} (ordered : tree.Ordered) {depth : Nat}
    (read : (reread? number? depth tree).isSome = true) : tree.depth ≤ depth := by
  induction ordered generalizing depth with
  | null | boolean | integer | float | string => exact Nat.zero_le _
  | @array items each ih =>
    cases depth with
    | zero => cases read
    | succ depth =>
      rw [reread?, rereadItems?_eq_mapM, Option.isSome_map] at read
      exact Nat.succ_le_succ (Tree.itemsDepth_le_iff.mpr fun item member =>
        ih item member (isSome_of_mapM read item member))
  | @object entries ascending each ih =>
    cases depth with
    | zero => cases read
    | succ depth =>
      rw [reread?, rereadEntries?_eq_mapM, Option.isSome_map] at read
      refine Nat.succ_le_succ (Tree.entriesDepth_le_iff.mpr fun entry member => ?_)
      have inside := isSome_of_mapM read entry member
      rw [Option.isSome_map] at inside
      exact ih entry member inside

/-- A value without floats within the limit is what is read back of its tree. -/
theorem reread?_of_floats (value : Value) (without : value.floats = [])
    (shallow : value.depth ≤ maxDepth) : reread? number? maxDepth value.tree = some value := by
  have none : ∀ x ∈ value.tree.floats, ∃ other : Value,
      number? x = some other ∧ id other.tree = id (.float x) := by
    rw [show value.tree.floats = [] from without]
    exact nofun
  obtain ⟨⟨tree, ordered⟩, read, same⟩ :=
    (reread?_agrees_iff Tree.id_isLevelwise value.ordered shallow).mpr none
  rw [read]
  cases value
  cases same
  rfl

/-- The text of a value without floats is read back within the limit, and refused beyond it. -/
theorem read?_print_eq_ite {value : Value} (blank : layout.IsBlank) (without : value.floats = []) :
    read? (print layout value) = if value.depth ≤ maxDepth then some value else none := by
  have unread : ∀ x ∈ value.floats, Rereads (fun _ => none) x := by simp [without]
  rw [read?, print, String.toList_ofList, readChars?_chars value blank unread]
  split
  · rename_i shallow
    exact reread?_of_floats value without shallow
  · rename_i deep
    cases read : reread? (fun _ => none) maxDepth value.tree with
    | none => rfl
    | some other => exact absurd (depth_le_of_reread? value.ordered (by rw [read]; rfl)) deep

end PathEdit.Json
