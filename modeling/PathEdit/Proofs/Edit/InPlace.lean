import PathEdit.Proofs.Edit.Heredity

/-! Edits in place. An edit changes the root step by step on its way down, where it can neither go
back nor say what is wrong, and where it takes elements by their index. All that can fail is found
before the first change: in place an edit leaves what it is said to leave, no index is outside of its
array, and a root is as it was wherever the answer is an error. -/
namespace PathEdit

/-- Changes in place. They stop at an index outside of an array, which is `none`; what transforms
return is kept, in the order of the calls. -/
abbrev InPlace := StateT (List Value) Option

namespace InPlace

/-- The element at an index. -/
def element (items : List Value) (index : Nat) : InPlace Value := StateT.lift items[index]?

/-- What a transform returns. -/
def call (f : Value → Value) (value : Value) : InPlace Value := do
  let result := f value
  modify (· ++ [result])
  return result

end InPlace

/-- The length of an array up to an index, as far as 64 bits count. -/
def lengthTo (index : UInt64) : Nat := min (index.toNat + 1) (UInt64.size - 1)

/-- The kind that a root must have for a step. -/
def Step.expected (step : Step) : Expected := if step.isIndex then .array else .object

namespace Operation

/-- Puts something in the place of a value. -/
def replace (operation : Operation) (current : Value) : InPlace Value :=
  match operation with
  | set value => return value
  | unset => return current
  | apply f => InPlace.call f current

/-- The value in a slot after an operation at a path, step by step. -/
def foldInto (operation : Operation) : Path → Value → InPlace Value
  | [], slot => operation.replace slot
  | .key name :: path, slot =>
    if operation.writes then do
      let item ← foldInto operation path ((slot.get? name).getD .null)
      return .object (slot.fields.insert name item)
    else if path = [] then return slot.mapFields (·.erase name)
    else
      match slot.get? name with
      | none => return slot
      | some item => do
        let item ← foldInto operation path item
        return .object (slot.fields.insert name item)
  | .position index :: path, slot =>
    if operation.writes then do
      let items := Value.padded slot.items (lengthTo index)
      let item ← InPlace.element items index.toNat
      let item ← foldInto operation path item
      return .array (items.set index.toNat item)
    else if path = [] then
      if index.toNat < slot.items.length then do
        let _ ← InPlace.element slot.items index.toNat
        return .array (slot.items.eraseIdx index.toNat)
      else return slot
    else
      match slot.at? index.toNat with
      | none => return slot
      | some item => do
        let item ← foldInto operation path item
        return .array (slot.items.set index.toNat item)
  | .wildcard :: path, slot =>
    if operation.writes then do
      return .array (← slot.items.mapM (foldInto operation path))
    else if slot.kind = .array then
      if path = [] then return .array []
      else do return .array (← slot.items.mapM (foldInto operation path))
    else return slot

/-- What an operation puts in the place of a whole root. -/
def replaceRoot (operation : Operation) (root : Value) : InPlace Value :=
  match operation with
  | unset => return root.emptied
  | operation => operation.replace root

/-- What transforms return that are given some values. -/
def returned (operation : Operation) (given : List Value) : List Value :=
  match operation with
  | apply f => given.map f
  | _ => []

theorem returned_nil (operation : Operation) : operation.returned [] = [] := by
  cases operation <;> rfl

theorem returned_flatMap (operation : Operation) (given : Value → List Value)
    (items : List Value) : operation.returned (items.flatMap given) =
      items.flatMap fun item => operation.returned (given item) := by
  cases operation with
  | set | unset => simp [returned]
  | apply f => exact List.map_flatMap

theorem replace_run (operation : Operation) (current : Value) (log : List Value) :
    (operation.replace current).run log =
      some (operation.produce current, log ++ operation.returned [current]) := by
  cases operation with
  | set | unset => exact congrArg (fun log => some (_, log)) (List.append_nil log).symm
  | apply f => rfl

end Operation

open Value

namespace InPlace

theorem element_run {items : List Value} {index : Nat} {item : Value}
    (there : items[index]? = some item) (log : List Value) :
    (element items index).run log = some (item, log) := by
  simp [element, there]

/-- Elements changed one after the other. -/
theorem mapM_run {change : Value → InPlace Value} {f : Value → Value} {g : Value → List Value}
    (each : ∀ value log, (change value).run log = some (f value, log ++ g value))
    (items : List Value) (log : List Value) :
    (items.mapM change).run log = some (items.map f, log ++ items.flatMap g) := by
  induction items generalizing log with
  | nil => simp
  | cons item rest ih => simp [each, ih]

end InPlace

namespace Operation

variable {operation : Operation} {path : Path}

theorem lengthTo_of_le {index : UInt64} (inside : index ≤ maxPosition) :
    lengthTo index = index.toNat + 1 := by
  have below : index.toNat ≤ 100000 := UInt64.le_iff_toNat_le.mp inside
  exact Nat.min_eq_left (by simp only [UInt64.size]; omega)

theorem set_eq_modify {items : List Value} {index : Nat} {item : Value}
    (there : items[index]? = some item) (f : Value → Value) :
    items.set index (f item) = items.modify index f := by
  rw [List.modify_eq_set, there, Option.getD_some]

/-- In place, a write through positions in range takes no element outside of an array, and leaves
what it is said to leave. -/
theorem foldInto_of_writes (writes : operation.writes = true)
    (inside : ∀ index, .position index ∈ path → index ≤ maxPosition) (slot : Value)
    (log : List Value) : (operation.foldInto path slot).run log =
      some (slot.write operation.produce path, log ++ operation.returned (slot.reached path)) := by
  induction path generalizing slot log with
  | nil => exact replace_run operation slot log
  | cons step path ih =>
    have below := ih fun index member => inside index (List.mem_cons_of_mem _ member)
    cases step with
    | key name => simp [foldInto, writes, below, write, reached, Value.get?]
    | position index =>
      have there := getElem?_padded_of_lt slot.items (Nat.lt_succ_self index.toNat)
      simp [foldInto, writes, below, write, reached, Value.at?,
        lengthTo_of_le (inside index List.mem_cons_self), InPlace.element_run there,
        ← set_eq_modify there]
    | wildcard =>
      simp [foldInto, writes, write, reached, InPlace.mapM_run below slot.items log,
        returned_flatMap]

/-- In place, a removal takes no element outside of an array, and leaves what it is said to leave. -/
theorem foldInto_unset (path : Path) (slot : Value) (log : List Value) :
    (unset.foldInto path slot).run log = some (slot.remove path, log) := by
  induction path generalizing slot log with
  | nil => rfl
  | cons step path ih =>
    cases step with
    | key name =>
      by_cases last : path = []
      · subst last
        rfl
      · cases there : slot.get? name with
        | none =>
          have absent : slot.child? (.key name) = none := there
          simp [foldInto, writes, last, there, remove_of_child? (by simp) absent]
        | some item =>
          have found : slot.child? (.key name) = some item := there
          have found' : slot.fields.get? name = some item := there
          simp [foldInto, writes, last, there, ih, remove_step found last, write, found']
    | position index =>
      cases there : slot.at? index.toNat with
      | none =>
        have absent : slot.child? (.position index) = none := there
        have beyond : ¬ index.toNat < slot.items.length :=
          Nat.not_lt_of_le (List.getElem?_eq_none_iff.mp there)
        simp [foldInto, writes, there, beyond, remove_of_child? (by simp) absent]
      | some item =>
        have found : slot.child? (.position index) = some item := there
        obtain ⟨inside, -⟩ := List.getElem?_eq_some_iff.mp there
        by_cases last : path = []
        · subst last
          have fits : slot.kind = .array := kind_of_child? found
          simp [foldInto, writes, inside, InPlace.element_run there, remove, mapItems_of_kind fits]
        · simp [foldInto, writes, last, there, ih, remove_step found last, write,
            padded_of_length_le inside, ← set_eq_modify there]
    | wildcard =>
      have each (item : Value) (log : List Value) :
          (unset.foldInto path item).run log = some (item.remove path, log ++ []) := by
        rw [ih, List.append_nil]
      by_cases fits : slot.kind = .array
      · by_cases last : path = []
        · simp [foldInto, writes, fits, last, remove, mapItems_of_kind fits]
        · simp [foldInto, writes, fits, last, InPlace.mapM_run each, remove_cons last, mapStep,
            mapItems_of_kind fits]
      · have misfit : slot.kind ≠ Step.wildcard.container := fits
        simp [foldInto, writes, fits, remove_of_misfit misfit]

/-- In place, an operation through positions in range leaves what it is said to leave, and its
transforms return what they make of the values at the end of the path. -/
theorem foldInto_run (operation : Operation)
    (inside : ∀ index, .position index ∈ path → index ≤ maxPosition) (slot : Value)
    (log : List Value) : (operation.foldInto path slot).run log =
      some (operation.onPath path slot, log ++ operation.returned (slot.reached path)) := by
  cases operation with
  | set | apply => exact foldInto_of_writes rfl inside slot log
  | unset =>
    rw [foldInto_unset]
    exact congrArg (fun log => some (_, log)) (List.append_nil log).symm

end Operation

namespace Edit

/-- An edit in place: what is left of the root, and what the edit answers. -/
def inPlace (edit : Edit) (root : Value) : InPlace (Value × Except Error Unit) :=
  match edit.path with
  | [] => do
    let replacement ← edit.operation.replaceRoot root
    if replacement.isContainer then return (replacement, .ok ())
    else return (root, .error (.typeMismatch .container replacement.kind))
  | path =>
    match misfit? path root with
    | some e => return (root, .error e)
    | none => do
      let root ← edit.operation.foldInto path root
      return (root, .ok ())

theorem replaceRoot_run (operation : Operation) (root : Value) (log : List Value) :
    (operation.replaceRoot root).run log =
      some (operation.onRoot root, log ++ operation.returned [root]) := by
  cases operation with
  | set | unset => exact congrArg (fun log => some (_, log)) (List.append_nil log).symm
  | apply f => rfl

/-- In place, an edit leaves and answers what it is said to, and transforms return what they make of
the values that the edit is given. -/
theorem inPlace_run (edit : Edit) (root : Value) (log : List Value) :
    (edit.inPlace root).run log = some ((attempt root edit, edit.answer root),
      log ++ edit.operation.returned (edit.given root)) := by
  obtain ⟨path, operation⟩ := edit
  cases path with
  | nil =>
    cases container : (operation.onRoot root).isContainer with
    | true => simp [inPlace, replaceRoot_run, container, attempt, answer, run, given,
        Except.toOption, Except.map]
    | false => simp [inPlace, replaceRoot_run, container, attempt, answer, run, given,
        Except.toOption, Except.map]
  | cons step path =>
    have steps : step :: path ≠ [] := List.cons_ne_nil _ _
    cases fits : misfit? (step :: path) root with
    | some e =>
      simp [inPlace, fits, attempt, answer_of_steps, run, given, Except.toOption,
        Operation.returned_nil]
    | none =>
      have inside := (misfit?_eq_none_iff.mp fits).1
      simp [inPlace, fits, operation.foldInto_run inside, attempt_of_fits, answer_of_steps,
        given]

/-- An index is the first position of a path beyond the largest one. -/
def FirstBeyond (path : Path) (index : UInt64) : Prop :=
  ∃ before behind, path = before ++ .position index :: behind ∧ maxPosition < index ∧
    ∀ other, .position other ∈ before → other ≤ maxPosition

theorem FirstBeyond.beyond? {path : Path} {index : UInt64} (first : FirstBeyond path index) :
    beyond? path = some index := by
  obtain ⟨before, behind, rfl, outside, inside⟩ := first
  induction before with
  | nil => exact if_pos outside
  | cons step before ih =>
    have rest := ih fun other member => inside other (List.mem_cons_of_mem _ member)
    cases step with
    | key | wildcard => exact rest
    | position other =>
      exact (if_neg (UInt64.not_lt.mpr (inside other List.mem_cons_self))).trans rest

theorem misfit?_of_misfit {step : Step} {path : Path} {root : Value}
    (inside : ∀ index, .position index ∈ step :: path → index ≤ maxPosition)
    (misfit : root.kind ≠ step.container) :
    misfit? (step :: path) root = some (.typeMismatch step.expected root.kind) := by
  rw [misfit?.eq_def, beyond?_eq_none_iff.mpr inside]
  cases step <;> exact if_neg misfit

theorem misfit?_of_beyond {path : Path} {index : UInt64} (beyond : beyond? path = some index)
    (root : Value) : misfit? path root = some (.indexOutOfRange index) := by
  rw [misfit?.eq_def, beyond]

variable {edit : Edit} {root after : Value} {e : Error}

theorem run_of_beyond {index : UInt64} (first : FirstBeyond edit.path index) :
    edit.run root = .error (.indexOutOfRange index) := by
  have steps : edit.path ≠ [] := by
    rintro none
    cases none ▸ first.beyond?
  rw [run_of_steps steps, misfit?_of_beyond first.beyond?]

theorem run_of_inside {step : Step} {path : Path} (steps : edit.path = step :: path)
    (inside : ∀ index, .position index ∈ edit.path → index ≤ maxPosition) :
    edit.run root =
      if root.kind = step.container then .ok (edit.operation.onPath edit.path root)
      else .error (.typeMismatch step.expected root.kind) := by
  have nonempty : edit.path ≠ [] := steps ▸ List.cons_ne_nil step path
  rw [run_of_steps nonempty, steps]
  rw [steps] at inside
  by_cases fits : root.kind = step.container
  · rw [if_pos fits, misfit?_eq_none_iff.mpr ⟨inside, fits⟩]
  · rw [if_neg fits, misfit?_of_misfit inside fits]

theorem run_of_root (none : edit.path = []) :
    edit.run root =
      let made := edit.operation.onRoot root
      if made.isContainer then .ok made else .error (.typeMismatch .container made.kind) := by
  rw [run.eq_def, none]

theorem inPlace_of_error (outcome : edit.run root = .error e) :
    (edit.inPlace root).run' [] = some (root, .error e) := by
  have done := congrArg (Option.map Prod.fst) (inPlace_run edit root [])
  rwa [attempt, answer, outcome] at done

theorem inPlace_of_ok (outcome : edit.run root = .ok after) :
    (edit.inPlace root).run' [] = some (after, .ok ()) := by
  have done := congrArg (Option.map Prod.fst) (inPlace_run edit root [])
  rwa [attempt, answer, outcome] at done

theorem inPlace_of_ite {fits : Prop} [Decidable fits]
    (outcome : edit.run root = if fits then .ok after else .error e) :
    (edit.inPlace root).run' [] =
      if fits then some (after, .ok ()) else some (root, .error e) := by
  by_cases here : fits
  · rw [if_pos here] at outcome ⊢
    exact inPlace_of_ok outcome
  · rw [if_neg here] at outcome ⊢
    exact inPlace_of_error outcome

/-- How an edit ends, in every case: a position beyond the largest one anywhere in the path is an
error, whatever the operation and whether or not there is something to reach; so is a root that is
not the container which the first step leads into, and a root replaced by a scalar. All else goes
through. In place the edit comes to this end, and in front of an error it changes nothing. -/
theorem inPlace_outcome (edit : Edit) (root : Value) :
    let outcome := (edit.inPlace root).run' []
    outcome = some (attempt root edit, edit.answer root) ∧
    (∀ index, FirstBeyond edit.path index →
      outcome = some (root, .error (.indexOutOfRange index))) ∧
    (∀ step path, edit.path = step :: path →
      (∀ index, .position index ∈ edit.path → index ≤ maxPosition) →
      outcome =
        if root.kind = step.container then some (edit.operation.onPath edit.path root, .ok ())
        else some (root, .error (.typeMismatch step.expected root.kind))) ∧
    (edit.path = [] →
      let made := edit.operation.onRoot root
      outcome =
        if made.isContainer then some (made, .ok ())
        else some (root, .error (.typeMismatch .container made.kind))) ∧
    ∀ after e, outcome = some (after, .error e) → after = root := by
  intro outcome
  refine ⟨congrArg (Option.map Prod.fst) (inPlace_run edit root []),
    fun index first => inPlace_of_error (run_of_beyond first),
    fun step path steps inside => inPlace_of_ite (run_of_inside steps inside),
    fun none => inPlace_of_ite (run_of_root none), fun after e failed => ?_⟩
  cases ended : edit.run root with
  | ok left => cases (inPlace_of_ok ended).symm.trans failed
  | error =>
    cases (inPlace_of_error ended).symm.trans failed
    rfl

/-- A position beyond the largest one behind the elements of an empty array, of which there are
none, is an error even for a removal. -/
theorem inPlace_outcome_unreached :
    let edit : Edit := ⟨[.key "a", .wildcard, .position 100001], .unset⟩
    let root := Value.object (.ofList [("a", .array [])])
    (edit.inPlace root).run' [] = some (root, .error (.indexOutOfRange 100001)) := by
  intro edit root
  obtain ⟨-, beyond, -⟩ := inPlace_outcome edit root
  refine beyond 100001 ⟨[.key "a", .wildcard], [], rfl, by decide, fun other member => ?_⟩
  simp at member

end Edit
end PathEdit
