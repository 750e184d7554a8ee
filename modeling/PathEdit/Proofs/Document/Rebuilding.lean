import PathEdit.Document
import PathEdit.Proofs.Batch.Passes
import PathEdit.Proofs.Edit.Growth

/-! Writing all leaves of a value, in any order, rebuilds the value. -/
namespace PathEdit

theorem Value.write_kind {value leaf target : Value} (below : target.Leaf path leaf) :
    (value.write (fun _ => leaf) path).kind = target.kind := by
  cases below with
  | here => rfl
  | entry => rw [write, kind_object, kind_object]
  | element => rw [write, kind_array, kind_array]

namespace Edit

/-- The edit that writes a leaf. -/
def ofLeaf (leaf : Path × Value) : Edit := ⟨leaf.1, .set leaf.2⟩

theorem run_ofLeaf {target root leaf : Value} {path : Path} (below : target.Leaf path leaf)
    (addressable : target.Addressable) (container : target.isContainer = true)
    (same : root.kind = target.kind) :
    (ofLeaf (path, leaf)).run root = .ok (root.write (fun _ => leaf) path) := by
  have reachable := below.beyond?_eq_none addressable
  cases below with
  | here => simp [run, ofLeaf, Operation.onRoot, container, Value.write]
  | entry =>
    have kind := same.trans (Value.kind_object _)
    simp [run, ofLeaf, Operation.onPath, misfit?, reachable, kind]
  | element =>
    have kind := same.trans (Value.kind_array _)
    simp [run, ofLeaf, Operation.onPath, misfit?, reachable, kind]

end Edit

namespace Document

/-- Edits that write leaves all succeed, and write them all. -/
theorem runEdits_leaves {target root : Value} {order : List (Path × Value)}
    (addressable : target.Addressable) (container : target.isContainer = true)
    (below : ∀ leaf ∈ order, target.Leaf leaf.1 leaf.2) (same : root.kind = target.kind)
    (grown : target.Grown done root) (strict : Bool) :
    ∃ after, runEdits strict (order.map Edit.ofLeaf) root = .ok (after, []) ∧
      after.kind = target.kind ∧ Value.Grown (fun path => done path ∨ ∃ leaf ∈ order, leaf.1 = path) target after := by
  induction order generalizing done root with
  | nil => exact ⟨root, rfl, same, grown.congr fun path => by simp⟩
  | cons leaf rest ih =>
    obtain ⟨first, below⟩ := List.forall_mem_cons.mp below
    obtain ⟨after, runs, kind, grown⟩ := ih below (Value.write_kind first) (grown.write first)
    refine ⟨after, ?_, kind, grown.congr fun path => ?_⟩
    · rw [List.map_cons, runEdits, Edit.run_ofLeaf first addressable container same]
      exact runs
    · simp [or_assoc, eq_comm]

/-- What a list of leaves asks for. -/
def leafArguments (order : List (Path × Value)) : List Argument :=
  order.flatMap fun leaf => [.value (.string leaf.1.text), .value leaf.2]

theorem setEdit_leaf {path : Path} (legal : ∀ step ∈ path, step.Nameable) (leaf : Value)
    (strict : Bool) : Batch.setEdit ⟨.standard, strict, .plain⟩ ⟨path.text, .value leaf⟩ =
      .ok (Edit.ofLeaf (path, leaf)) := by
  by_cases root : path = []
  · subst root
    rfl
  · have text : path.text.isEmpty = false := by
      rw [Bool.eq_false_iff, Ne, String.isEmpty_iff]
      intro empty
      exact (Path.denotes_chars root legal).ne_nil (String.ofList_eq_empty_iff.mp empty)
    simp [Batch.setEdit, KeyPolicy.qualify, KeyPolicy.plain, text, Batch.edit,
      Path.parse_text_eq root legal, Argument.operation, Except.map, Edit.ofLeaf]

theorem set_leafArguments {order : List (Path × Value)}
    (legal : ∀ leaf ∈ order, ∀ step ∈ leaf.1, step.Nameable) (strict : Bool) :
    Batch.set ⟨.standard, strict, .plain⟩ (leafArguments order) =
      .ok ⟨order.map Edit.ofLeaf, []⟩ := by
  have pairs : Argument.valuePairs strict (leafArguments order) =
      .ok ⟨order.map fun leaf => ⟨leaf.1.text, .value leaf.2⟩, []⟩ := by
    rw [Argument.valuePairs, leafArguments, Argument.pairs_flatMap, List.map_map]
    exact Sifted.sift_map_of_ok (fun _ _ => rfl) strict
  have edits : Sifted.sift strict ((order.map fun leaf => ⟨leaf.1.text, .value leaf.2⟩).map
      (Batch.setEdit ⟨.standard, strict, .plain⟩)) = .ok ⟨order.map Edit.ofLeaf, []⟩ := by
    rw [List.map_map]
    refine Sifted.sift_map_of_ok (fun leaf member => ?_) strict
    exact setEdit_leaf (legal leaf member) leaf.2 strict
  rw [Batch.set, pairs]
  exact (congrArg (· >>= _) edits).trans rfl

theorem kind_emptied {value : Value} (container : value.isContainer = true) :
    value.emptied.kind = value.kind := by
  rcases Value.isContainer_iff.mp container with array | object
  · rw [Value.emptied, if_pos array, array, Value.kind_array]
  · rw [Value.emptied, object, if_neg (by decide), Value.kind_object]

/-- From the empty container of its kind, a value is rebuilt by writing its leaves, whatever their
order, with no error. -/
theorem set_leaves_materialize {target : Value} (container : target.isContainer = true)
    (addressable : target.Addressable) {order : List (Path × Value)}
    (permuted : order.Perm target.leaves) (strict : Bool) :
    ∃ document,
      (start strict .standard target.emptied).set .plain (leafArguments order) = .ok document ∧
      document.errors = [] ∧
        document.materialize = ({ document with content := target, queue := [] }, .ok target) := by
  have below : ∀ leaf ∈ order, target.Leaf leaf.1 leaf.2 := fun leaf member =>
    (Value.mem_leaves_iff addressable).mp (permuted.mem_iff.mp member)
  have legal : ∀ leaf ∈ order, ∀ step ∈ leaf.1, step.Nameable := fun leaf member =>
    (below leaf member).nameable addressable
  have kind := kind_emptied container
  have started : start strict .standard target.emptied =
      ⟨strict, .standard, target.emptied, [], []⟩ := by
    have still : target.emptied.isContainer = true := by
      rwa [Value.isContainer, kind, ← Value.isContainer]
    rw [start, if_pos still]
  obtain ⟨after, runs, -, grown⟩ := runEdits_leaves addressable container below kind
    (.emptied container) strict
  have rebuilt : after = target := by
    refine grown.eq_of_all addressable fun path leaf inside => .inr ?_
    have member := permuted.mem_iff.mpr ((Value.mem_leaves_iff addressable).mpr inside)
    exact ⟨(path, leaf), member, rfl⟩
  rw [rebuilt] at runs
  refine ⟨⟨strict, .standard, target.emptied, order.map Edit.ofLeaf, []⟩, ?_, rfl, ?_⟩
  · rw [started, set, batch, set_leafArguments legal]
    simp only [Except.map, enqueue, List.nil_append]
  · rw [materialize, runs]
    rfl

/-- An object with a list that is written from its end, and an empty object that is written
first. -/
theorem set_leaves_materialize_reversed :
    let target := Value.object
      (.ofList [("a.b", .array [.boolean true, .null]), ("c", .object .empty)])
    ∃ document, (start false .standard target.emptied).set .plain
      (leafArguments target.leaves.reverse) = .ok document ∧ document.errors = [] ∧
        document.materialize = ({ document with content := target, queue := [] }, .ok target) := by
  intro target
  have flags : (Value.array [.boolean true, .null]).Addressable := by
    refine .array (by decide) fun item member => ?_
    obtain rfl | rfl : item = .boolean true ∨ item = .null := by simpa using member
    · exact .scalar rfl
    · exact .scalar rfl
  have none : (Value.object .empty).Addressable := .object nofun nofun
  let fields := Fields.ofList
    [("a.b", .array [.boolean true, .null]), ("c", Value.object .empty)]
  have entries : ∀ name item, fields.get? name = some item →
      (Step.key name).Nameable ∧ item.Addressable := by
    intro name item found
    simp only [fields, Fields.ofList, List.foldl_cons, List.foldl_nil, Fields.get?_insert,
      Fields.get?_empty] at found
    split at found
    · rename_i same
      exact ⟨same ▸ (by decide : Grammar.Identifier _ _), Option.some.inj found ▸ none⟩
    split at found
    · rename_i same
      exact ⟨same ▸ (by decide : Grammar.Identifier _ _), Option.some.inj found ▸ flags⟩
    · cases found
  exact set_leaves_materialize rfl (.object (fun name item found => (entries name item found).1)
    fun name item found => (entries name item found).2) (List.reverse_perm _) false

end Document
end PathEdit
