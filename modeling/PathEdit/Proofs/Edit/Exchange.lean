import PathEdit.Proofs.Edit.Writing

/-! Edits at paths that part, which may change places. At the step where the paths part the edits
touch different entries or elements. Before it both go the same way, where a write makes what is
missing, and a removal finds nothing in what was made. -/
namespace PathEdit

namespace Fields

variable {fields : Fields α} {name other : String} {f g : Option α → Option α}

/-- The map after a change of what is under a name, which may be nothing before or after. -/
def alter (fields : Fields α) (name : String) (f : Option α → Option α) : Fields α :=
  match f (fields.get? name) with
  | some a => fields.insert name a
  | none => fields.erase name

theorem get?_alter (fields : Fields α) (name other : String) (f : Option α → Option α) :
    (fields.alter name f).get? other =
      if other = name then f (fields.get? name) else fields.get? other := by
  rw [alter]
  cases f (fields.get? name) with
  | some => rw [get?_insert]
  | none => rw [get?_erase]

theorem alter_comm (apart : name ≠ other ∨ ∀ found, f (g found) = g (f found)) :
    (fields.alter other g).alter name f = (fields.alter name f).alter other g := by
  refine ext_get? fun key => ?_
  simp only [get?_alter]
  by_cases same : name = other
  · subst same
    have commute := apart.resolve_left (not_not_intro rfl)
    rw [if_pos rfl, if_pos rfl, commute]
    split <;> rfl
  · rw [if_neg same, if_neg (Ne.symm same)]
    by_cases first : key = name
    · rw [if_pos first, if_pos first, if_neg (first ▸ same)]
    · rw [if_neg first, if_neg first]

end Fields

namespace Value

variable {makes makes' : Bool} {index other : Nat} {f g : Value → Value} {items : List Value}

/-- The list after a change at a position, up to which nulls are made, or which may be missing. -/
def changeAt (makes : Bool) (index : Nat) (f : Value → Value) (items : List Value) : List Value :=
  (if makes then padded items (index + 1) else items).modify index f

theorem length_changeAt (makes : Bool) (index : Nat) (f : Value → Value) (items : List Value) :
    (changeAt makes index f items).length = max items.length (if makes then index + 1 else 0) := by
  rw [changeAt, List.length_modify]
  split
  · exact length_padded _ _
  · exact (Nat.max_zero _).symm

/-- What is missing counts as a null, if a change that makes nothing leaves nulls alone. -/
theorem getD_changeAt (still : makes = false → f null = null) (i : Nat) :
    (changeAt makes index f items)[i]?.getD null =
      if index = i then f (items[i]?.getD null) else items[i]?.getD null := by
  rw [changeAt, List.getElem?_modify]
  have start : (if makes then padded items (index + 1) else items)[i]?.getD null =
      items[i]?.getD null := by
    split
    · exact getElem?_padded _ _ _
    · rfl
  rw [← start]
  cases found : (if makes then padded items (index + 1) else items)[i]? with
  | some item => rfl
  | none =>
    by_cases same : index = i
    · rw [if_pos same]
      cases makes with
      | false => exact (still rfl).symm
      | true =>
        rw [if_pos rfl, getElem?_padded_of_lt _ (same ▸ Nat.lt_succ_self _)] at found
        cases found
    · rw [if_neg same]
      rfl

theorem changeAt_comm (still : makes = false → f null = null)
    (still' : makes' = false → g null = null)
    (apart : index ≠ other ∨ ∀ item, f (g item) = g (f item)) :
    changeAt makes index f (changeAt makes' other g items) =
      changeAt makes' other g (changeAt makes index f items) := by
  have length : (changeAt makes index f (changeAt makes' other g items)).length =
      (changeAt makes' other g (changeAt makes index f items)).length := by
    simp only [length_changeAt]
    omega
  refine List.ext_getElem length fun i here there => ?_
  suffices same : (changeAt makes index f (changeAt makes' other g items))[i]?.getD null =
      (changeAt makes' other g (changeAt makes index f items))[i]?.getD null by
    simpa [here, there] using same
  simp only [getD_changeAt still, getD_changeAt still']
  by_cases same : index = other
  · subst same
    have commute := apart.resolve_left (not_not_intro rfl)
    split
    · exact commute _
    · rfl
  · by_cases first : index = i
    · have second : other ≠ i := fun equal => same (first.trans equal.symm)
      rw [if_pos first, if_pos first, if_neg second, if_neg second]
    · rw [if_neg first, if_neg first]

theorem remove_fresh (step : Step) (path : Path) :
    step.fresh.remove (step :: path) = step.fresh := by
  cases step with
  | key => cases path <;> exact mapFields_object _ _
  | position | wildcard => cases path <;> simp [Step.fresh, Step.isIndex, remove]

theorem remove_null (path : Path) : null.remove path = null := by
  cases path with
  | nil => rfl
  | cons step path =>
    have misfit : null.kind ≠ step.container := by cases step <;> exact Kind.noConfusion
    exact remove_of_misfit misfit path

end Value

namespace Operation

open Value

variable {f g : Operation} {p q : Path} {s t : Step} {value : Value}

theorem onPath_null (removes : f.writes = false) (path : Path) : f.onPath path null = null := by
  cases f with
  | unset => exact remove_null path
  | set | apply => cases removes

theorem onPath_fresh (removes : f.writes = false) (step : Step) (path : Path) :
    f.onPath (step :: path) step.fresh = step.fresh := by
  cases f with
  | unset => exact remove_fresh step path
  | set | apply => cases removes

theorem onPath_of_misfit (misfit : value.kind ≠ s.container) (f : Operation) (path : Path) :
    f.onPath (s :: path) value = if f.writes then f.onPath (s :: path) s.fresh else value := by
  cases f with
  | set | apply => exact write_of_misfit misfit _ _
  | unset => exact remove_of_misfit misfit _

/-- What an operation makes of what is, or is not, at the end of its path or on the way there. -/
def onSlot (operation : Operation) (path : Path) (found : Option Value) : Option Value :=
  if operation.writes then some (operation.onPath path (found.getD null))
  else if path = [] then none
  else found.map (operation.onPath path)

theorem onPath_object (f : Operation) (name : String) (path : Path) (fields : Fields Value) :
    f.onPath (.key name :: path) (object fields) = object (fields.alter name (f.onSlot path)) := by
  cases f with
  | set | apply =>
    simp only [onPath, write, fields_object]
    rfl
  | unset =>
    simp only [onPath]
    cases path with
    | nil => exact mapFields_object _ _
    | cons step path =>
      refine (mapFields_object _ _).trans (congrArg object (Fields.ext_get? fun other => ?_))
      rw [Fields.get?_modify, Fields.get?_alter]
      split
      · rename_i same
        rw [same]
        rfl
      · rfl

theorem onPath_position (inside : f.writes = false → p ≠ []) (index : UInt64)
    (items : List Value) : f.onPath (.position index :: p) (array items) =
      array (changeAt f.writes index.toNat (f.onPath p) items) := by
  cases f with
  | set | apply =>
    simp only [onPath, write, items_array]
    rfl
  | unset =>
    obtain ⟨step, path, rfl⟩ := List.exists_cons_of_ne_nil (inside rfl)
    exact mapItems_array _ _

theorem onPath_wildcard (inside : f.writes = false → p ≠ []) (items : List Value) :
    f.onPath (.wildcard :: p) (array items) = array (items.map (f.onPath p)) := by
  cases f with
  | set | apply =>
    simp only [onPath, write, items_array]
    rfl
  | unset =>
    obtain ⟨step, path, rfl⟩ := List.exists_cons_of_ne_nil (inside rfl)
    exact mapItems_array _ _

theorem onSlot_of_writes (writes : f.writes = true) (path : Path) (found : Option Value) :
    f.onSlot path found = some (f.onPath path (found.getD null)) := by
  rw [onSlot, if_pos writes]

theorem onSlot_of_removes (removes : f.writes = false) (steps : p ≠ []) (found : Option Value) :
    f.onSlot p found = found.map (f.onPath p) := by
  rw [onSlot, removes, if_neg Bool.false_ne_true, if_neg steps]

theorem onSlot_comm (steps : p ≠ []) (steps' : q ≠ [])
    (commute : ∀ value, f.onPath p (g.onPath q value) = g.onPath q (f.onPath p value))
    (found : Option Value) :
    f.onSlot p (g.onSlot q found) = g.onSlot q (f.onSlot p found) := by
  cases writes : f.writes with
  | true =>
    cases writes' : g.writes with
    | true =>
      simp only [onSlot_of_writes writes, onSlot_of_writes writes', Option.getD_some, commute]
    | false =>
      simp only [onSlot_of_writes writes, onSlot_of_removes writes' steps', Option.map_some,
        ← commute]
      cases found with
      | none => simp [onPath_null writes']
      | some => rfl
  | false =>
    cases writes' : g.writes with
    | true =>
      simp only [onSlot_of_writes writes', onSlot_of_removes writes steps, Option.map_some, commute]
      cases found with
      | none => simp [onPath_null writes]
      | some => rfl
    | false =>
      simp only [onSlot_of_removes writes steps, onSlot_of_removes writes' steps', Option.map_map]
      exact congrArg (found.map ·) (funext commute)

/-- Two operations that commute on the containers that their first steps lead into commute on every
value. -/
theorem onPath_comm_of_fits (alike : s.isIndex = t.isIndex)
    (inside : ∀ value : Value, value.kind = s.container →
      f.onPath (s :: p) (g.onPath (t :: q) value) = g.onPath (t :: q) (f.onPath (s :: p) value))
    (value : Value) :
    f.onPath (s :: p) (g.onPath (t :: q) value) = g.onPath (t :: q) (f.onPath (s :: p) value) := by
  by_cases fits : value.kind = s.container
  · exact inside value fits
  have container : t.container = s.container := by rw [Step.container, Step.container, alike]
  have fresh : t.fresh = s.fresh := by rw [Step.fresh, Step.fresh, alike]
  have made := inside s.fresh s.kind_fresh
  have first := onPath_of_misfit fits f p
  have second := onPath_of_misfit (container ▸ fits) g q
  rw [fresh] at second
  -- a write starts from the empty container, and a removal does nothing to the value or to that
  cases writes : f.writes with
  | true =>
    rw [writes, if_pos rfl] at first
    cases writes' : g.writes with
    | true =>
      rw [writes', if_pos rfl] at second
      rw [first, second, made]
    | false =>
      rw [writes', if_neg Bool.false_ne_true] at second
      rw [second, first, ← made, ← fresh, onPath_fresh writes']
  | false =>
    rw [writes, if_neg Bool.false_ne_true] at first
    cases writes' : g.writes with
    | true =>
      rw [writes', if_pos rfl] at second
      rw [first, second, made, onPath_fresh writes]
    | false =>
      rw [writes', if_neg Bool.false_ne_true] at second
      rw [first, second, first]

end Operation

/-- Two steps to different entries, or to different positions. -/
inductive Step.Apart : Step → Step → Prop
  | keys (different : name ≠ other) : Apart (key name) (key other)
  | positions (different : index ≠ other) : Apart (position index) (position other)

namespace Operation

open Value

variable {f g : Operation} {shared p q : Path} {s t : Step}

/-- Operations commute whose paths part, if none of them takes an element out of an array in which
the other one goes on. -/
theorem onPath_comm (apart : s.Apart t) (first : f.writes = false → p = [] → s.isIndex = false)
    (second : g.writes = false → q = [] → t.isIndex = false) (value : Value) :
    f.onPath (shared ++ s :: p) (g.onPath (shared ++ t :: q) value) =
      g.onPath (shared ++ t :: q) (f.onPath (shared ++ s :: p) value) := by
  induction shared generalizing value with
  | nil =>
    rw [List.nil_append, List.nil_append]
    cases apart with
    | keys different =>
      refine onPath_comm_of_fits (by rfl) (fun value fits => ?_) value
      rw [← object_fields fits]
      simp only [onPath_object, Fields.alter_comm (.inl different)]
    | positions different =>
      have inside : f.writes = false → p ≠ [] := fun removes last => nomatch first removes last
      have inside' : g.writes = false → q ≠ [] := fun removes last => nomatch second removes last
      have different := mt UInt64.toNat_inj.mp different
      refine onPath_comm_of_fits (by rfl) (fun value fits => ?_) value
      rw [← array_items fits]
      simp only [onPath_position inside, onPath_position inside',
        changeAt_comm (fun removes => onPath_null removes p) (fun removes => onPath_null removes q)
          (.inl different)]
  | cons step shared ih =>
    have steps : shared ++ s :: p ≠ [] := by simp
    have steps' : shared ++ t :: q ≠ [] := by simp
    refine onPath_comm_of_fits (by rfl) (fun value fits => ?_) value
    cases step with
    | key name =>
      rw [← object_fields fits]
      simp only [List.append_eq, onPath_object,
        Fields.alter_comm (.inr (onSlot_comm steps steps' ih))]
    | position index =>
      rw [← array_items fits]
      simp only [List.append_eq, onPath_position fun _ => steps, onPath_position fun _ => steps',
        changeAt_comm (fun removes => onPath_null removes _) (fun removes => onPath_null removes _)
          (.inr ih)]
    | wildcard =>
      rw [← array_items fits]
      simp only [List.append_eq, onPath_wildcard fun _ => steps, onPath_wildcard fun _ => steps',
        List.map_map]
      exact congrArg array (List.map_congr_left fun item _ => ih item)

end Operation

namespace Edit

variable {f g : Operation} {shared p q : Path} {s t : Step}

/-- Edits change places whose paths go the same way and then part, towards different entries or
different positions, unless one of them takes an element out of the array where they part: the root
is the same in both orders, and so are the answers of both. -/
theorem carryOut_swap (apart : s.Apart t) (first : f.writes = false → p = [] → s.isIndex = false)
    (second : g.writes = false → q = [] → t.isIndex = false) (root : Value) :
    let one : Edit := ⟨shared ++ s :: p, f⟩
    let other : Edit := ⟨shared ++ t :: q, g⟩
    carryOut [one, other] root = carryOut [other, one] root ∧
      one.answer (attempt root other) = one.answer root ∧
      other.answer (attempt root one) = other.answer root := by
  intro one other
  have steps : one.path ≠ [] := by simp [one]
  have steps' : other.path ≠ [] := by simp [other]
  refine ⟨?_, answer_attempt steps steps' root, answer_attempt steps' steps root⟩
  change attempt (attempt root one) other = attempt (attempt root other) one
  have still := misfit?_attempt steps other.path root
  have still' := misfit?_attempt steps' one.path root
  by_cases fits : misfit? one.path root = none
  · by_cases fits' : misfit? other.path root = none
    · rw [attempt_of_fits steps' (still.trans fits'), attempt_of_fits steps (still'.trans fits),
        attempt_of_fits steps fits, attempt_of_fits steps' fits']
      exact (Operation.onPath_comm apart first second root).symm
    · rw [attempt_of_misfit steps' (still ▸ fits'), attempt_of_misfit steps' fits']
  · rw [attempt_of_misfit steps fits, attempt_of_misfit steps (still' ▸ fits)]

/-- A flag set in every element of a list, which makes an array of one and pads the other, and an
entry removed behind another position of the same elements. -/
theorem carryOut_swap_padded :
    let item := Value.object (.ofList [("x", .null)])
    let root := Value.object (.ofList [("a", .array [.null, .array [item]])])
    let flag : Edit := ⟨[.key "a", .wildcard, .position 2], .set (.boolean true)⟩
    let removal : Edit := ⟨[.key "a", .wildcard, .position 0, .key "x"], .unset⟩
    let after := Value.object (.ofList [("a", .array [.array [.null, .null, .boolean true],
      .array [.object .empty, .null, .boolean true]])])
    carryOut [flag, removal] root = after ∧ carryOut [removal, flag] root = after := by
  intro item root flag removal after
  have swap := (@carryOut_swap (.set (.boolean true)) .unset [.key "a", .wildcard] [] [.key "x"] _ _
    (.positions (by decide : (2 : UInt64) ≠ 0)) (by nofun) (by nofun) root).1
  have done : carryOut [flag, removal] root = after := by decide
  exact ⟨done, swap.symm.trans done⟩

end Edit
end PathEdit
