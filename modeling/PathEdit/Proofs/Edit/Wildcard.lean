import PathEdit.Proofs.Edit.Exchange
import PathEdit.Proofs.Edit.Nesting
import PathEdit.Proofs.Value.Leaves

/-! What a wildcard stands for: the positions of the elements that are there, and no others. An edit
through it is a series of edits, one through each of these positions, in any order. Only where the
elements themselves are taken out the last one has to go first. -/
namespace PathEdit

namespace Value

variable {items : List Value}

/-- The positions of the elements of a list. -/
def positions (items : List Value) : List UInt64 := (List.range items.length).map UInt64.ofNat

theorem map_toNat_positions (short : items.length ≤ maxPosition.toNat + 1) :
    (positions items).map UInt64.toNat = List.range items.length := by
  rw [positions, List.map_map]
  refine (List.map_congr_left fun i member => ?_).trans (List.map_id _)
  exact toNat_ofNat_of_short short (List.getElem?_eq_getElem (List.mem_range.mp member))

theorem toNat_lt_of_mem_positions (short : items.length ≤ maxPosition.toNat + 1) {index : UInt64}
    (member : index ∈ positions items) : index.toNat < items.length := by
  rw [← List.mem_range, ← map_toNat_positions short]
  exact List.mem_map_of_mem member

theorem le_of_mem_positions (short : items.length ≤ maxPosition.toNat + 1) {index : UInt64}
    (member : index ∈ positions items) : index ≤ maxPosition := by
  have below := toNat_lt_of_mem_positions short member
  exact UInt64.le_iff_toNat_le.mpr (by omega)

/-- A change at some positions, each of them once, changes just the elements that are there. -/
theorem getElem?_foldl_modify {order : List Nat} (once : order.Nodup) (g : Value → Value)
    (items : List Value) (i : Nat) :
    (order.foldl (fun items index => items.modify index g) items)[i]? =
      if i ∈ order then items[i]?.map g else items[i]? := by
  induction order generalizing items with
  | nil => simp
  | cons index rest ih =>
    obtain ⟨fresh, once⟩ := List.nodup_cons.mp once
    rw [List.foldl_cons, ih once]
    by_cases here : index = i
    · subst here
      rw [if_neg fresh, if_pos List.mem_cons_self, List.getElem?_modify_eq]
      rfl
    · have same : i ∈ index :: rest ↔ i ∈ rest := by simp [Ne.symm here]
      simp only [same, List.getElem?_modify_ne _ _ here]

theorem foldl_modify_of_perm {order : List Nat} (all : order.Perm (List.range items.length))
    (g : Value → Value) :
    order.foldl (fun items index => items.modify index g) items = items.map g := by
  have once : order.Nodup := all.nodup_iff.mpr List.nodup_range
  refine List.ext_getElem? fun i => ?_
  rw [getElem?_foldl_modify once, List.getElem?_map]
  split
  · rfl
  · rename_i outside
    have beyond : items.length ≤ i :=
      Nat.le_of_not_lt fun inside => outside (all.mem_iff.mpr (List.mem_range.mpr inside))
    rw [List.getElem?_eq_none beyond]
    rfl

/-- Elements taken out from the last one to the first leave nothing. -/
theorem foldl_eraseIdx_reverse (items : List Value) :
    (List.range items.length).reverse.foldl List.eraseIdx items = [] := by
  generalize size : items.length = length
  induction length generalizing items with
  | zero => exact List.length_eq_zero_iff.mp size
  | succ length ih =>
    rw [List.range_succ, List.reverse_append, List.reverse_singleton, List.singleton_append,
      List.foldl_cons]
    exact ih _ (by rw [List.length_eraseIdx_of_lt (by omega)]; omega)

theorem changeAt_of_lt {index : Nat} (inside : index < items.length) (makes : Bool)
    (g : Value → Value) : changeAt makes index g items = items.modify index g := by
  rw [changeAt]
  split
  · rw [padded_of_length_le inside]
  · rfl

end Value

namespace Operation

open Value

variable {f : Operation} {root item : Value} {items : List Value} {q r : Path}

/-- Operations one after the other, each of them below a place that is there, come to one change of
what is at that place. -/
theorem foldl_onPath_append (found : root.follow? q = some item) {ends : List Path}
    (steps : ∀ path ∈ ends, path ≠ []) :
    ends.foldl (fun root path => f.onPath (q ++ path) root) root =
      root.write (fun value => ends.foldl (fun value path => f.onPath path value) value) q := by
  have exact := exact_of_follow? found
  induction ends generalizing root item with
  | nil => exact (write_of_follow? found rfl).symm
  | cons path rest ih =>
    obtain ⟨first, others⟩ := List.forall_mem_cons.mp steps
    -- the place is still there for the operations that follow
    have next := follow?_write (f.onPath path) exact root
    rw [List.foldl_cons, onPath_append found first, ih next others, write_write]
    rfl

/-- An operation at the positions of some elements, and further down, changes the elements there. -/
theorem foldl_onPath_position (inside : f.writes = false → r ≠ []) {order : List UInt64}
    (there : ∀ index ∈ order, index.toNat < items.length) :
    (order.map fun index => Step.position index :: r).foldl (fun value path => f.onPath path value)
        (array items) =
      array ((order.map UInt64.toNat).foldl (fun items index => items.modify index (f.onPath r))
        items) := by
  induction order generalizing items with
  | nil => rfl
  | cons index rest ih =>
    obtain ⟨first, others⟩ := List.forall_mem_cons.mp there
    simp only [List.map_cons, List.foldl_cons, onPath_position inside, changeAt_of_lt first]
    exact ih fun other member => by
      rw [List.length_modify]
      exact others other member

/-- An operation at all positions, in any order, is one through the wildcard. -/
theorem foldl_onPath_positions (inside : f.writes = false → r ≠ []) {order : List UInt64}
    (there : ∀ index ∈ order, index.toNat < items.length)
    (all : (order.map UInt64.toNat).Perm (List.range items.length)) :
    (order.map fun index => Step.position index :: r).foldl (fun value path => f.onPath path value)
        (array items) =
      f.onPath (.wildcard :: r) (array items) := by
  rw [foldl_onPath_position inside there, foldl_modify_of_perm all, onPath_wildcard inside]

/-- Elements taken out of an array one after the other. -/
theorem foldl_onPath_unset (order : List UInt64) (items : List Value) :
    (order.map fun index => [Step.position index]).foldl
        (fun value path => unset.onPath path value) (array items) =
      array ((order.map UInt64.toNat).foldl List.eraseIdx items) := by
  induction order generalizing items with
  | nil => rfl
  | cons index rest ih =>
    simp only [List.map_cons, List.foldl_cons, onPath, remove, mapItems_array]
    exact ih _

theorem onPath_unset_wildcard (items : List Value) :
    unset.onPath [.wildcard] (array items) = array [] :=
  mapItems_array (fun _ => []) items

/-- All elements taken out, the last one first, are all elements taken out at once. -/
theorem foldl_onPath_unset_positions (short : items.length ≤ maxPosition.toNat + 1) :
    ((positions items).reverse.map fun index => [Step.position index]).foldl
        (fun value path => unset.onPath path value) (array items) =
      unset.onPath [.wildcard] (array items) := by
  rw [foldl_onPath_unset, List.map_reverse, map_toNat_positions short, foldl_eraseIdx_reverse,
    onPath_unset_wildcard]

end Operation

namespace Edit

variable {f : Operation} {root item : Value} {items : List Value} {q r : Path} {step : Step}

/-- A path to an array, and on into the array, fits. -/
theorem misfit?_of_follow? (found : root.follow? q = some (.array items))
    (into : step.isIndex = true) (own : ∀ index, step = .position index → index ≤ maxPosition)
    (inside : ∀ index, .position index ∈ q ++ r → index ≤ maxPosition) :
    misfit? (q ++ step :: r) root = none := by
  have all : ∀ index, .position index ∈ q ++ step :: r → index ≤ maxPosition := by
    intro index member
    rcases List.mem_append.mp member with before | behind
    · exact inside index (List.mem_append_left r before)
    · rcases List.mem_cons.mp behind with here | later
      · exact own index here.symm
      · exact inside index (List.mem_append_right q later)
  cases q with
  | nil =>
    obtain rfl := Option.some.inj found
    refine misfit?_eq_none_iff.mpr ⟨all, ?_⟩
    rw [Value.kind_array, Step.container, if_pos into]
  | cons => exact misfit?_eq_none_iff.mpr ⟨all, Value.kind_of_follow? found⟩

/-- On from an array that is there the wildcard fits, and so do positions in range. -/
theorem fits_positions (found : root.follow? q = some (.array items))
    (inside : ∀ index, .position index ∈ q ++ r → index ≤ maxPosition) {order : List UInt64}
    (bounded : ∀ index ∈ order, index ≤ maxPosition) :
    ∀ path ∈ (.wildcard :: r) :: order.map fun index => .position index :: r,
      path ≠ [] ∧ misfit? (q ++ path) root = none := by
  have fits {step : Step} (into : step.isIndex = true)
      (own : ∀ index, step = .position index → index ≤ maxPosition) :
      step :: r ≠ [] ∧ misfit? (q ++ step :: r) root = none :=
    ⟨List.cons_ne_nil _ _, misfit?_of_follow? found into own inside⟩
  refine List.forall_mem_cons.mpr ⟨fits rfl fun _ => Step.noConfusion, List.forall_mem_map.mpr ?_⟩
  exact fun index member => fits rfl fun _ same => Step.position.inj same ▸ bounded index member

/-- Edits one after the other, all of them below one place that is there, are all carried out. They
are one edit below that place, if they come to it on the value that is there. -/
theorem carryOut_append_paths (found : root.follow? q = some item) {ends : List Path} {whole : Path}
    (fit : ∀ path ∈ whole :: ends, path ≠ [] ∧ misfit? (q ++ path) root = none)
    (same : ends.foldl (fun value path => f.onPath path value) item = f.onPath whole item) :
    let each := ends.map fun path => (⟨q ++ path, f⟩ : Edit)
    ∃ after, run ⟨q ++ whole, f⟩ root = .ok after ∧ carryOut each root = after ∧
      faults each root = [] ∧ after.follow? q = some (f.onPath whole item) := by
  intro each
  obtain ⟨⟨steps, fits⟩, others⟩ := List.forall_mem_cons.mp fit
  have onEach : ∀ edit ∈ each, edit.path ≠ [] ∧ misfit? edit.path root = none := by
    intro edit member
    obtain ⟨path, here, rfl⟩ := List.mem_map.mp member
    exact ⟨List.append_ne_nil_of_right_ne_nil q (others path here).1, (others path here).2⟩
  obtain ⟨done, faultless⟩ := carryOut_of_fits onEach
  refine ⟨root.write (f.onPath whole) q, ?_, ?_, faultless, ?_⟩
  · rw [run_of_steps (List.append_ne_nil_of_right_ne_nil q steps), fits]
    exact congrArg Except.ok (Operation.onPath_append found steps f)
  · rw [done, List.foldl_map,
      Operation.foldl_onPath_append found fun path member => (others path member).1]
    exact Value.write_congr found same
  · rw [Value.follow?_write _ (Value.exact_of_follow? found), found, Option.getD_some]

theorem carryOut_wildcard (found : root.follow? q = some (.array items))
    (short : items.length ≤ maxPosition.toNat + 1)
    (inside : ∀ index, .position index ∈ q ++ r → index ≤ maxPosition)
    (onward : f.writes = false → r ≠ []) {order : List UInt64}
    (all : order.Perm (Value.positions items)) :
    let each := order.map fun index => (⟨q ++ .position index :: r, f⟩ : Edit)
    ∃ after, run ⟨q ++ .wildcard :: r, f⟩ root = .ok after ∧ carryOut each root = after ∧
      faults each root = [] ∧ after.follow? q = some (.array (items.map (f.onPath r))) := by
  have member {index : UInt64} (ordered : index ∈ order) : index ∈ Value.positions items :=
    all.mem_iff.mp ordered
  have perm : (order.map UInt64.toNat).Perm (List.range items.length) :=
    Value.map_toNat_positions short ▸ all.map _
  have same := Operation.foldl_onPath_positions onward
    (fun index ordered => Value.toNat_lt_of_mem_positions short (member ordered)) perm
  obtain ⟨after, outcome, done, faultless, left⟩ := carryOut_append_paths found
    (fits_positions found inside fun index ordered => Value.le_of_mem_positions short
      (member ordered)) same
  rw [List.map_map] at done faultless
  exact ⟨after, outcome, done, faultless, left.trans (by rw [Operation.onPath_wildcard onward])⟩

theorem carryOut_wildcard_last (found : root.follow? q = some (.array items))
    (short : items.length ≤ maxPosition.toNat + 1)
    (inside : ∀ index, .position index ∈ q → index ≤ maxPosition) :
    let each := (Value.positions items).reverse.map fun index =>
      (⟨q ++ [.position index], .unset⟩ : Edit)
    ∃ after, run ⟨q ++ [.wildcard], .unset⟩ root = .ok after ∧ carryOut each root = after ∧
      faults each root = [] ∧ after.follow? q = some (.array []) := by
  rw [← List.append_nil q] at inside
  obtain ⟨after, outcome, done, faultless, left⟩ := carryOut_append_paths found
    (fits_positions found inside fun index ordered => Value.le_of_mem_positions short
      (List.mem_reverse.mp ordered)) (Operation.foldl_onPath_unset_positions short)
  rw [List.map_map] at done faultless
  exact ⟨after, outcome, done, faultless, left.trans (by rw [Operation.onPath_unset_wildcard])⟩

/-- An edit through a wildcard behind a path to an array leaves the root that the same edits leave
which go, one after the other and in any order, through the positions of the elements of that array;
it has as many elements as before. All elements are taken out of it by a removal that ends with the
wildcard, and by removals of one after the other, the last one first. -/
theorem carryOut_positions (found : root.follow? q = some (.array items))
    (short : items.length ≤ maxPosition.toNat + 1)
    (inside : ∀ index, .position index ∈ q ++ r → index ≤ maxPosition) :
    (∀ (f : Operation) (order : List UInt64), (f.writes = true ∨ r ≠ []) →
      order.Perm (Value.positions items) →
      let each := order.map fun index => (⟨q ++ .position index :: r, f⟩ : Edit)
      ∃ after, run ⟨q ++ .wildcard :: r, f⟩ root = .ok after ∧
        carryOut each root = after ∧ faults each root = [] ∧
        ∃ others, after.follow? q = some (.array others) ∧ others.length = items.length) ∧
    let each := (Value.positions items).reverse.map fun index =>
      (⟨q ++ [.position index], .unset⟩ : Edit)
    ∃ after, run ⟨q ++ [.wildcard], .unset⟩ root = .ok after ∧
      carryOut each root = after ∧ faults each root = [] ∧ after.follow? q = some (.array []) := by
  constructor
  · intro f order goes all
    have onward : f.writes = false → r ≠ [] := fun removes =>
      goes.resolve_left (by rw [removes]; exact Bool.false_ne_true)
    obtain ⟨after, outcome, done, faultless, left⟩ :=
      carryOut_wildcard found short inside onward all
    exact ⟨after, outcome, done, faultless, _, left, List.length_map _⟩
  · exact carryOut_wildcard_last found short fun index member =>
      inside index (List.mem_append_left r member)

/-- An element set in every list of a list, of which one is made and the other one is padded, and
all of them taken out. -/
theorem carryOut_positions_padded :
    let root := Value.object (.ofList [("a", .array [.null, .array [.boolean true]])])
    let flag (step : Step) : Edit := ⟨[.key "a", step, .position 1], .set (.integer 1)⟩
    let removal (step : Step) : Edit := ⟨[.key "a", step], .unset⟩
    let after := Value.object (.ofList [("a", .array [.array [.null, .integer 1],
      .array [.boolean true, .integer 1]])])
    let cleared := Value.object (.ofList [("a", .array [])])
    (run (flag .wildcard) root = .ok after ∧
      carryOut [flag (.position 1), flag (.position 0)] root = after) ∧
    run (removal .wildcard) root = .ok cleared ∧
      carryOut [removal (.position 1), removal (.position 0)] root = cleared := by
  intro root flag removal after cleared
  have found : root.follow? [.key "a"] = some (.array [.null, .array [.boolean true]]) := by decide
  have inside : ∀ index, .position index ∈ [Step.key "a"] ++ [.position 1] →
      index ≤ maxPosition := by
    intro index member
    obtain rfl : index = 1 := by simpa using member
    decide
  obtain ⟨each, all⟩ := carryOut_positions found (by decide) inside
  obtain ⟨written, outcome, done, -⟩ := each (.set (.integer 1)) [1, 0] (.inl rfl) (.swap 0 1 [])
  obtain ⟨removed, outcome', done', -⟩ := all
  obtain rfl : written = after := done.symm.trans (by decide)
  obtain rfl : removed = cleared := done'.symm.trans (by decide)
  exact ⟨⟨outcome, done⟩, outcome', done'⟩

end Edit
end PathEdit
