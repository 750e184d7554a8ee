import PathEdit.Batch

/-! The passes over argument lists. What a strict pass answers is said by the lenient one: the first
error that is dropped, or else the same. -/
namespace PathEdit

theorem exists_of_bind_ok {first : Except ε α} {next : α → Except ε β} {b : β}
    (outcome : first >>= next = .ok b) : ∃ a, first = .ok a ∧ next a = .ok b := by
  cases first with
  | error e => cases outcome
  | ok a => exact ⟨a, rfl, outcome⟩

theorem exists_of_map_ok {outcome : Except ε α} {f : α → β} {b : β}
    (success : outcome.map f = .ok b) : ∃ a, outcome = .ok a ∧ f a = b := by
  cases outcome with
  | error e => cases success
  | ok a => exact ⟨a, rfl, Except.ok.inj success⟩

theorem Sifted.sift_map_of_ok {f : α → Except Error β} {g : α → β} {items : List α}
    (succeeds : ∀ item ∈ items, f item = .ok (g item)) (strict : Bool) :
    Sifted.sift strict (items.map f) = .ok ⟨items.map g, []⟩ := by
  induction items with
  | nil => rfl
  | cons item rest ih =>
    obtain ⟨first, succeeds⟩ := List.forall_mem_cons.mp succeeds
    rw [List.map_cons, first, sift, ih succeeds]
    rfl

namespace Sifted

/-- The results and the errors among outcomes, in order. -/
def ofOutcomes (outcomes : List (Except Error α)) : Sifted α :=
  { kept := outcomes.filterMap Except.toOption
    dropped := outcomes.filterMap fun
      | .ok _ => none
      | .error e => some e }

/-- A lenient pass always has a result. -/
theorem sift_lenient (outcomes : List (Except Error α)) :
    sift false outcomes = .ok (ofOutcomes outcomes) := by
  induction outcomes with
  | nil => rfl
  | cons outcome rest ih =>
    rw [ofOutcomes] at ih
    cases outcome with
    | ok a =>
      rw [sift, ih]
      rfl
    | error e =>
      rw [sift, ih]
      rfl

theorem kept_ofOutcomes_append (outcomes others : List (Except Error α)) :
    (ofOutcomes (outcomes ++ others)).kept =
      (ofOutcomes outcomes).kept ++ (ofOutcomes others).kept :=
  List.filterMap_append

theorem dropped_ofOutcomes_append (outcomes others : List (Except Error α)) :
    (ofOutcomes (outcomes ++ others)).dropped =
      (ofOutcomes outcomes).dropped ++ (ofOutcomes others).dropped :=
  List.filterMap_append

end Sifted

/-- Cutting a list between two pairs. -/
theorem Argument.pairs_append (missing : Argument) {arguments : List Argument}
    (even : arguments.length % 2 = 0) (others : List Argument) :
    pairs missing (arguments ++ others) = pairs missing arguments ++ pairs missing others := by
  induction arguments using pairs.induct with
  | case1 => rfl
  | case2 path => simp at even
  | case3 path content rest ih =>
    have even : rest.length % 2 = 0 := by
      simp only [List.length_cons] at even
      omega
    rw [List.cons_append, List.cons_append, pairs, ih even, pairs, List.cons_append]

theorem Argument.pairs_flatMap (missing : Argument) (f g : α → Argument) (items : List α) :
    pairs missing (items.flatMap fun item => [f item, g item]) =
      items.map fun item => (f item, g item) := by
  induction items with
  | nil => rfl
  | cons item rest ih => simp [pairs, ih]

/-- A pass keeps nothing but results. -/
theorem Sifted.mem_of_sift {strict : Bool} {outcomes : List (Except Error α)} {sifted : Sifted α}
    (success : sift strict outcomes = .ok sifted) {a : α} (member : a ∈ sifted.kept) :
    .ok a ∈ outcomes := by
  induction outcomes generalizing sifted with
  | nil =>
    cases success
    cases member
  | cons outcome rest ih =>
    cases outcome with
    | ok first =>
      obtain ⟨others, done, same⟩ := exists_of_bind_ok success
      cases same
      rcases List.mem_cons.mp member with rfl | later
      · exact List.mem_cons_self
      · exact List.mem_cons_of_mem _ (ih done later)
    | error e =>
      rw [sift] at success
      split at success
      · cases success
      · obtain ⟨others, done, same⟩ := exists_of_bind_ok success
        cases same
        exact List.mem_cons_of_mem _ (ih done member)

namespace Error

/-- The first error, or a result if there is none. -/
def firstOr (errors : List Error) (a : α) : Except Error α :=
  match errors with
  | [] => .ok a
  | e :: _ => .error e

theorem firstOr_map (errors : List Error) (a : α) (f : α → β) :
    (firstOr errors a).map f = firstOr errors (f a) := by
  cases errors <;> rfl

end Error

/-- A strict outcome beside the lenient one: the lenient one has a result, with a list of errors,
and the strict one is the first of them, or the same result. -/
def Relaxed (errors : α → List Error) (strict lenient : Except Error α) : Prop :=
  ∃ a, lenient = .ok a ∧ strict = Error.firstOr (errors a) a

/-- A strict outcome that is no error comes without errors. -/
theorem Relaxed.errors_eq_nil {errors : α → List Error} {strict lenient : Except Error α}
    (relaxed : Relaxed errors strict lenient) (success : strict = .ok a) : errors a = [] := by
  obtain ⟨result, -, outcome⟩ := relaxed
  have same := outcome.symm.trans success
  cases found : errors result with
  | nil =>
    rw [found] at same
    cases same
    exact found
  | cons e rest =>
    rw [found] at same
    cases same

theorem Sifted.sift_relaxed (outcomes : List (Except Error α)) :
    Relaxed dropped (sift true outcomes) (sift false outcomes) := by
  induction outcomes with
  | nil => exact ⟨⟨[], []⟩, rfl, rfl⟩
  | cons outcome rest ih =>
    obtain ⟨sifted, lenient, strict⟩ := ih
    cases outcome with
    | error e =>
      refine ⟨⟨sifted.kept, e :: sifted.dropped⟩, ?_, rfl⟩
      rw [sift, lenient]
      rfl
    | ok a =>
      refine ⟨⟨a :: sifted.kept, sifted.dropped⟩, ?_, ?_⟩
      · rw [sift, lenient]
        rfl
      · rw [sift, strict]
        exact Error.firstOr_map _ _ _

namespace Batch

/-- Two passes, of which the second one begins when the first one has not failed. -/
theorem build_relaxed {strict lenient : Except Error (Sifted α)}
    (first : Relaxed Sifted.dropped strict lenient) (s : PathSyntax) (policy : KeyPolicy)
    (edit : α → Except Error Edit) :
    Relaxed Sifted.dropped (strict >>= fun pairs => build ⟨s, true, policy⟩ pairs edit)
      (lenient >>= fun pairs => build ⟨s, false, policy⟩ pairs edit) := by
  obtain ⟨⟨kept, dropped⟩, rfl, rfl⟩ := first
  obtain ⟨edits, lenient, strict⟩ := Sifted.sift_relaxed (kept.map edit)
  refine ⟨⟨edits.kept, dropped ++ edits.dropped⟩, ?_, ?_⟩
  · change build _ _ edit = _
    rw [build, lenient]
    rfl
  · cases dropped with
    | cons => rfl
    | nil =>
      change build _ _ edit = _
      rw [build, strict]
      exact Error.firstOr_map _ _ _

theorem set_relaxed (s : PathSyntax) (policy : KeyPolicy) (arguments : List Argument) :
    Relaxed Sifted.dropped (set ⟨s, true, policy⟩ arguments) (set ⟨s, false, policy⟩ arguments) :=
  build_relaxed (Sifted.sift_relaxed _) s policy (setEdit ⟨s, true, policy⟩)

theorem unset_relaxed (s : PathSyntax) (policy : KeyPolicy) (paths : List String) :
    Relaxed Sifted.dropped (unset ⟨s, true, policy⟩ paths) (unset ⟨s, false, policy⟩ paths) :=
  Sifted.sift_relaxed _

theorem apply_relaxed (s : PathSyntax) (policy : KeyPolicy) (arguments : List Argument) :
    Relaxed Sifted.dropped (apply ⟨s, true, policy⟩ arguments)
      (apply ⟨s, false, policy⟩ arguments) :=
  build_relaxed (Sifted.sift_relaxed _) s policy (applyEdit ⟨s, true, policy⟩)

end Batch
end PathEdit
