import PathEdit.Proofs.Json.Reading

/-! How much of a value is read back of its text: all of it but its floats. -/
namespace PathEdit

/-- Whether a map on trees goes through arrays and objects one level at a time. -/
structure Tree.IsLevelwise (φ : Tree → Tree) : Prop where
  array (items : List Tree) : φ (.array items) = .array (items.map φ)
  object (entries : List (String × Tree)) :
    φ (.object entries) = .object (entries.map fun entry => (entry.1, φ entry.2))

theorem Tree.id_isLevelwise : IsLevelwise id := ⟨by simp, by simp⟩

theorem Tree.outline_isLevelwise : IsLevelwise outline :=
  ⟨fun items => by rw [outline, itemsOutline_eq_map],
    fun entries => by rw [outline, entriesOutline_eq_map]⟩

namespace Json

/-- A step that may fail gives what is wanted on a whole list when it does on each element. -/
theorem mapM_agrees_iff {α β γ : Type} {step : α → Option β} {got : β → γ} {wanted : α → γ}
    {as : List α} :
    (∃ bs, as.mapM step = some bs ∧ bs.map got = as.map wanted) ↔
      ∀ a ∈ as, ∃ b, step a = some b ∧ got b = wanted a := by
  induction as with
  | nil => simp
  | cons a as ih =>
    rw [List.forall_mem_cons, ← ih, List.mapM_cons]
    constructor
    · rintro ⟨bs, outcome, same⟩
      cases here : step a with
      | none => simp [here] at outcome
      | some b =>
        cases there : as.mapM step with
        | none => simp [here, there] at outcome
        | some rest =>
          obtain rfl : b :: rest = bs := by simpa [here, there] using outcome
          simp only [List.map_cons, List.cons.injEq] at same
          exact ⟨⟨b, rfl, same.1⟩, rest, rfl, same.2⟩
    · rintro ⟨⟨b, here, first⟩, rest, there, others⟩
      exact ⟨b :: rest, by simp [here, there], by simp [first, others]⟩

variable {number? : Binary64 → Option Value} {φ : Tree → Tree}

/-- Names are read back in their order. -/
theorem rereadEntries?_names {entries : List (String × Tree)} {depth : Nat}
    {outcome : List (String × Value)} (read : rereadEntries? number? depth entries = some outcome) :
    outcome.map Prod.fst = entries.map Prod.fst := by
  induction entries generalizing outcome with
  | nil =>
    cases Option.some.inj read
    rfl
  | cons entry rest ih =>
    cases here : reread? number? depth entry.2 with
    | none => simp [rereadEntries?, here] at read
    | some item =>
      cases there : rereadEntries? number? depth rest with
      | none => simp [rereadEntries?, here, there] at read
      | some others =>
        obtain rfl : (entry.1, item) :: others = outcome := by
          simpa [rereadEntries?, here, there] using read
        simp [ih there]

/-- What is read back of an array agrees with it when it does for each of its elements. -/
theorem reread?_array_agrees_iff (levelwise : Tree.IsLevelwise φ) {items : List Tree} {depth : Nat} :
    (∃ value, reread? number? (depth + 1) (.array items) = some value ∧
      φ value.tree = φ (.array items)) ↔
      ∀ item ∈ items, ∃ value, reread? number? depth item = some value ∧ φ value.tree = φ item := by
  have level (values : List Value) : φ (Value.array values).tree = φ (.array items) ↔
      values.map (fun value => φ value.tree) = items.map φ := by
    simp [Value.array, levelwise.array, Function.comp_def]
  rw [← mapM_agrees_iff, reread?, rereadItems?_eq_mapM]
  simp only [Option.map_eq_some_iff, ← level]
  constructor
  · rintro ⟨_, ⟨values, read, rfl⟩, same⟩
    exact ⟨values, read, same⟩
  · rintro ⟨values, read, same⟩
    exact ⟨_, ⟨values, read, rfl⟩, same⟩

/-- What is read back of an object agrees with it when it does for each of its entries. -/
theorem reread?_object_agrees_iff (levelwise : Tree.IsLevelwise φ) {entries : List (String × Tree)}
    (ascending : (entries.map Prod.fst).Pairwise (· < ·)) {depth : Nat} :
    (∃ value, reread? number? (depth + 1) (.object entries) = some value ∧
      φ value.tree = φ (.object entries)) ↔
      ∀ entry ∈ entries, ∃ value, reread? number? depth entry.2 = some value ∧
        φ value.tree = φ entry.2 := by
  have level (values : List (String × Value))
      (read : rereadEntries? number? depth entries = some values) :
      φ (Value.object (.ofList values)).tree = φ (.object entries) ↔
        values.map (fun entry => (entry.1, φ entry.2.tree)) =
          entries.map fun entry => (entry.1, φ entry.2) := by
    have names := rereadEntries?_names read
    rw [← names] at ascending
    simp [Value.object, levelwise.object, Fields.map, Fields.entries_ofList ascending,
      Function.comp_def]
  calc (∃ value, reread? number? (depth + 1) (.object entries) = some value ∧
        φ value.tree = φ (.object entries))
    _ ↔ ∃ values, rereadEntries? number? depth entries = some values ∧
          values.map (fun entry => (entry.1, φ entry.2.tree)) =
            entries.map fun entry => (entry.1, φ entry.2) := by
        rw [reread?]
        simp only [Option.map_eq_some_iff]
        constructor
        · rintro ⟨_, ⟨values, read, rfl⟩, same⟩
          exact ⟨values, read, (level values read).mp same⟩
        · rintro ⟨values, read, same⟩
          exact ⟨_, ⟨values, read, rfl⟩, (level values read).mpr same⟩
    _ ↔ ∀ entry ∈ entries, ∃ outcome,
          (reread? number? depth entry.2).map (entry.1, ·) = some outcome ∧
            (outcome.1, φ outcome.2.tree) = (entry.1, φ entry.2) := by
        rw [rereadEntries?_eq_mapM, mapM_agrees_iff]
    _ ↔ _ := by
        refine forall₂_congr fun entry _ => ?_
        constructor
        · rintro ⟨_, outcome, same⟩
          obtain ⟨value, read, rfl⟩ := Option.map_eq_some_iff.mp outcome
          exact ⟨value, read, (Prod.mk.inj same).2⟩
        · rintro ⟨value, read, same⟩
          exact ⟨(entry.1, value), by rw [read, Option.map_some], by rw [same]⟩

/-- What is read back of a tree agrees with it when it does for each of its floats. -/
theorem reread?_agrees_iff (levelwise : Tree.IsLevelwise φ) {tree : Tree} (ordered : tree.Ordered)
    {depth : Nat} (shallow : tree.depth ≤ depth) :
    (∃ value, reread? number? depth tree = some value ∧ φ value.tree = φ tree) ↔
      ∀ x ∈ tree.floats, ∃ value, number? x = some value ∧ φ value.tree = φ (.float x) := by
  induction ordered generalizing depth with
  | null | boolean | integer | string => simp [reread?, Tree.floats]; rfl
  | float x => simp [reread?, Tree.floats]
  | array each ih =>
    obtain ⟨depth, rfl⟩ : ∃ rest, depth = rest + 1 :=
      Nat.exists_eq_succ_of_ne_zero (Nat.ne_zero_of_lt shallow)
    have inside := Tree.itemsDepth_le_iff.mp (Nat.le_of_succ_le_succ shallow)
    rw [reread?_array_agrees_iff levelwise, Tree.floats, Tree.itemsFloats_eq_flatMap,
      List.forall_mem_flatMap]
    exact forall₂_congr fun item present => ih item present (inside item present)
  | object ascending each ih =>
    obtain ⟨depth, rfl⟩ : ∃ rest, depth = rest + 1 :=
      Nat.exists_eq_succ_of_ne_zero (Nat.ne_zero_of_lt shallow)
    have inside := Tree.entriesDepth_le_iff.mp (Nat.le_of_succ_le_succ shallow)
    rw [reread?_object_agrees_iff levelwise ascending, Tree.floats, Tree.entriesFloats_eq_flatMap,
      List.forall_mem_flatMap]
    exact forall₂_congr fun entry present => ih entry present (inside entry present)

/-- A value without floats is read back from its text, whatever blanks set its elements apart. -/
theorem read?_print {layout : Layout} {value : Value} (blank : layout.IsBlank)
    (noFloats : value.floats = []) (shallow : value.depth ≤ maxDepth) :
    read? (print layout value) = some value := by
  have unread : ∀ x ∈ value.floats, Rereads (fun _ => none) x := by simp [noFloats]
  have floats : ∀ x ∈ value.tree.floats, ∃ other : Value,
      (fun _ => none) x = some other ∧ id other.tree = id (.float x) := by
    intro x held
    rw [show value.tree.floats = [] from noFloats] at held
    cases held
  obtain ⟨other, read, same⟩ :=
    (reread?_agrees_iff Tree.id_isLevelwise value.ordered shallow).mpr floats
  rw [read?, print, String.toList_ofList, readChars?_chars value blank unread, read]
  obtain ⟨tree, ordered⟩ := value
  cases other
  cases same
  rfl

/-- A tree with escaped and unescaped characters, laid out with tabs. -/
theorem read?_print_tabbed :
    read? (print ⟨['\t'], [' ', '\t']⟩ (.array [.string "a\"\n\x7f\u00e9", .integer (-7), .array [],
      .object (.ofList [("k", .null), ("\\", .boolean true)])])) =
    some (.array [.string "a\"\n\x7f\u00e9", .integer (-7), .array [],
      .object (.ofList [("k", .null), ("\\", .boolean true)])]) :=
  read?_print ⟨by simp [Reader.isBlank], by simp [Reader.isBlank]⟩ (by decide +kernel)
    (by decide +kernel)

end Json
end PathEdit
