import PathEdit.Proofs.Batch.Verdict
import PathEdit.Proofs.Path.Parsing

/-! The order of the errors of a batch. Each pass answers in the order of the arguments, but what
the first one refuses comes before everything that the second one refuses. So the errors are in the
order of the arguments just as long as no path that cannot be read stands in front of a pair that the
first pass refuses. -/
namespace PathEdit

namespace Error

/-- Whether an error is that of a text which is no path. The second pass has no other errors, and
the first pass has none of these. -/
def isUnread : Error → Bool
  | invalidPath _ => true
  | _ => false

/-- The errors of the first pass, and behind them those of the second one. -/
def byPass (errors : List Error) : List Error :=
  errors.filter (!·.isUnread) ++ errors.filter isUnread

variable {e : Error} {errors : List Error}

theorem byPass_of_unread (unread : ∀ e ∈ errors, e.isUnread = true) : byPass errors = errors := by
  have refused : errors.filter (!·.isUnread) = [] :=
    List.filter_eq_nil_iff.mpr fun e member => by simp [unread e member]
  rw [byPass, refused, List.filter_eq_self.mpr unread, List.nil_append]

theorem byPass_cons_of_refused (refused : e.isUnread = false) :
    byPass (e :: errors) = e :: byPass errors := by
  rw [byPass, List.filter_cons_of_pos (by simp [refused]),
    List.filter_cons_of_neg (by simp [refused])]
  rfl

/-- An error of the second pass that was in front stays there only if the first pass has none. -/
theorem head?_byPass_iff (unread : e.isUnread = true) :
    (byPass (e :: errors)).head? = some e ↔ ∀ f ∈ errors, f.isUnread = true := by
  constructor
  · intro same f member
    by_contra refused
    have first : f ∈ (e :: errors).filter (!·.isUnread) :=
      List.mem_filter.mpr ⟨List.mem_cons_of_mem _ member, by simp [refused]⟩
    rw [byPass, List.head?_append_of_ne_nil _ (List.ne_nil_of_mem first)] at same
    have front := List.of_mem_filter (List.mem_of_head? same)
    simp [unread] at front
  · intro all
    rw [byPass_of_unread (List.forall_mem_cons.mpr ⟨unread, all⟩), List.head?_cons]

/-- The errors are in order when behind an error of the second pass there is none of the first. -/
theorem byPass_eq_iff :
    byPass errors = errors ↔ errors.Pairwise fun e f => e.isUnread = true → f.isUnread = true := by
  induction errors with
  | nil => exact ⟨fun _ => .nil, fun _ => rfl⟩
  | cons e rest ih =>
    rw [List.pairwise_cons]
    cases unread : e.isUnread with
    | false =>
      rw [byPass_cons_of_refused unread, List.cons_inj_right, ih]
      exact ⟨fun ordered => ⟨fun _ _ => nofun, ordered⟩, And.right⟩
    | true =>
      constructor
      · intro same
        have all := (head?_byPass_iff unread).mp (congrArg List.head? same)
        exact ⟨fun f member _ => all f member,
          List.pairwise_of_forall_mem_list fun _ _ f member _ => all f member⟩
      · rintro ⟨all, -⟩
        exact byPass_of_unread (List.forall_mem_cons.mpr ⟨unread, fun f member => all f member rfl⟩)

theorem firstOr_eq_iff {others : List Error} {a : α} :
    firstOr errors a = firstOr others a ↔ errors.head? = others.head? := by
  cases errors <;> cases others <;> simp [firstOr]

/-- The first error is in its place when it is one of the first pass, or when there are none. -/
theorem firstOr_byPass_iff {a : α} : firstOr (byPass errors) a = firstOr errors a ↔
    (errors.head?.any isUnread = true → errors.all isUnread = true) := by
  rw [firstOr_eq_iff]
  cases errors with
  | nil => exact ⟨fun _ _ => rfl, fun _ => rfl⟩
  | cons e rest =>
    rw [List.head?_cons, Option.any_some, List.all_cons, Bool.and_eq_true]
    cases unread : e.isUnread with
    | false =>
      rw [byPass_cons_of_refused unread, List.head?_cons]
      exact ⟨fun _ => nofun, fun _ => rfl⟩
    | true =>
      rw [head?_byPass_iff unread, List.all_eq_true]
      exact ⟨fun all _ => ⟨rfl, all⟩, fun ordered => (ordered rfl).2⟩

end Error

namespace Sifted

/-- The errors of outcomes are those of what is made of them. -/
theorem dropped_ofOutcomes_map (f : α → β) (outcomes : List (Except Error α)) :
    (ofOutcomes (outcomes.map (·.map f))).dropped = (ofOutcomes outcomes).dropped := by
  induction outcomes with
  | nil => rfl
  | cons outcome rest ih =>
    cases outcome with
    | ok a => exact ih
    | error e => exact congrArg (e :: ·) ih

end Sifted

namespace Batch

/-- The errors of pairs of arguments that are submitted one by one, in the order of the pairs. -/
def errorsAlone (submit : List Argument → Except Error (Sifted Edit))
    (pairs : List (Argument × Argument)) : List Error :=
  (Sifted.ofOutcomes (pairs.map fun pair => submit [pair.1, pair.2])).dropped

/-- What a strict and a lenient batch of a list of arguments make of the errors that its pairs have
on their own. The lenient one drops them pass by pass, and the strict one fails with the first of
these. So the lenient one is in the order of the pairs if no error of the second pass is in front of
one of the first, and the strict one answers the error of the earliest pair if that one is no error
of the second pass, or there are no others. -/
def AnswersByPass (errors : List Error) (strict lenient : Except Error (Sifted Edit)) : Prop :=
  ∃ sifted, lenient = .ok sifted ∧
    sifted.dropped = Error.byPass errors ∧
    strict = Error.firstOr (Error.byPass errors) sifted ∧
    (sifted.dropped = errors ↔ errors.Pairwise fun e f => e.isUnread = true → f.isUnread = true) ∧
    (strict = Error.firstOr errors sifted ↔
      (errors.head?.any Error.isUnread = true → errors.all Error.isUnread = true))

section Passes

variable {look : α → Except Error β} {edit : β → Except Error Edit}

/-- The two passes part the errors that the entries have when they go through both at once. -/
theorem parts_passed (refuses : ∀ entry e, look entry = .error e → e.isUnread = false)
    (reads : ∀ found e, edit found = .error e → e.isUnread = true) (entries : List α) :
    let errors := (Sifted.ofOutcomes (entries.map fun entry => look entry >>= edit)).dropped
    let looked := Sifted.ofOutcomes (entries.map look)
    looked.dropped = errors.filter (!·.isUnread) ∧
      (Sifted.ofOutcomes (looked.kept.map edit)).dropped = errors.filter Error.isUnread := by
  induction entries with
  | nil => exact ⟨rfl, rfl⟩
  | cons entry rest ih =>
    obtain ⟨first, second⟩ := ih
    rw [List.map_cons, List.map_cons]
    cases looked : look entry with
    | error e =>
      have refused := refuses entry e looked
      refine ⟨?_, ?_⟩
      · exact (congrArg (e :: ·) first).trans (List.filter_cons_of_pos (by simp [refused])).symm
      · exact second.trans (List.filter_cons_of_neg (by simp [refused])).symm
    | ok found =>
      have read : Except.ok found >>= edit = edit found := rfl
      simp only [Sifted.ofOutcomes_ok, List.map_cons, read]
      cases edited : edit found with
      | error e =>
        have unread := reads found e edited
        refine ⟨?_, ?_⟩
        · exact first.trans (List.filter_cons_of_neg (by simp [unread])).symm
        · exact (congrArg (e :: ·) second).trans (List.filter_cons_of_pos unread).symm
      | ok edit => exact ⟨first, second⟩

theorem dropped_passed (refuses : ∀ entry e, look entry = .error e → e.isUnread = false)
    (reads : ∀ found e, edit found = .error e → e.isUnread = true) (entries : List α) :
    (passed (.ofOutcomes (entries.map look)) edit).dropped =
      Error.byPass (Sifted.ofOutcomes (entries.map fun entry => look entry >>= edit)).dropped := by
  obtain ⟨first, second⟩ := parts_passed refuses reads entries
  rw [passed, first, second, Error.byPass]

/-- A strict batch of one entry, which goes through both passes. -/
theorem build_single (s : PathSyntax) (policy : KeyPolicy) (looked : Except Error β) :
    (Sifted.sift true [looked] >>= fun pairs => build ⟨s, true, policy⟩ pairs edit) =
      (looked >>= edit).map fun edit => ⟨[edit], []⟩ := by
  cases looked with
  | error e => rfl
  | ok found =>
    change build _ _ edit = (edit found).map _
    rw [build, List.map_singleton]
    cases edit found <;> rfl

end Passes

variable {s : PathSyntax} {policy : KeyPolicy}

theorem edit_error {batch : Batch} {path : String} {operation : Operation} {e : Error}
    (failed : batch.edit path operation = .error e) : e.isUnread = true := by
  rw [edit, PathSyntax.parse] at failed
  split at failed
  · cases failed
  · cases failed
    rfl

theorem setEdit_error {batch : Batch} {pair : Pair Argument} {e : Error}
    (failed : batch.setEdit pair = .error e) : e.isUnread = true := by
  rw [setEdit] at failed
  split at failed
  · split at failed
    · cases failed
    · cases failed
      rfl
  · exact edit_error failed

theorem toPair_error {pair : Argument × Argument} {e : Error}
    (failed : Argument.toPair pair = .error e) : e.isUnread = false := by
  rw [Argument.toPair] at failed
  split at failed
  · cases failed
  · cases failed
    rfl

theorem toTransformPair_error {pair : Argument × Argument} {e : Error}
    (failed : Argument.toTransformPair pair = .error e) : e.isUnread = false := by
  rw [Argument.toTransformPair] at failed
  split at failed
  · cases failed
    rfl
  · split at failed
    · cases failed
    · cases failed
      rfl

theorem errorsAlone_eq {submit : List Argument → Except Error (Sifted Edit)}
    {judge : Argument × Argument → Except Error Edit}
    (single : ∀ pair, submit [pair.1, pair.2] = (judge pair).map fun edit => ⟨[edit], []⟩)
    (pairs : List (Argument × Argument)) :
    errorsAlone submit pairs = (Sifted.ofOutcomes (pairs.map judge)).dropped := by
  rw [errorsAlone, List.map_congr_left fun pair _ => single pair]
  exact (congrArg (Sifted.dropped ∘ Sifted.ofOutcomes) List.map_map.symm).trans
    (Sifted.dropped_ofOutcomes_map _ _)

/-- The errors of a batch of writes or of transforms, beside those of its pairs. -/
theorem answersByPass_of_relaxed {strict lenient : Except Error (Sifted Edit)}
    {sifted : Sifted Edit} {errors : List Error} (relaxed : Relaxed Sifted.dropped strict lenient)
    (result : lenient = .ok sifted) (dropped : sifted.dropped = Error.byPass errors) :
    AnswersByPass errors strict lenient := by
  obtain ⟨found, outcome, first⟩ := relaxed
  obtain rfl := Except.ok.inj (outcome.symm.trans result)
  rw [dropped] at first
  refine ⟨found, result, dropped, first, ?_, ?_⟩
  · rw [dropped]
    exact Error.byPass_eq_iff
  · rw [first]
    exact Error.firstOr_byPass_iff

/-- The errors of batches of writes and of transforms, strict and lenient, are those of their pairs
alone, in the order of the two passes. -/
theorem batches_answer_by_pass (s : PathSyntax) (policy : KeyPolicy) (arguments : List Argument) :
    AnswersByPass
      (errorsAlone (set ⟨s, true, policy⟩) (Argument.pairs (.value (.object .empty)) arguments))
      (set ⟨s, true, policy⟩ arguments) (set ⟨s, false, policy⟩ arguments) ∧
    AnswersByPass
      (errorsAlone (apply ⟨s, true, policy⟩) (Argument.pairs (.transform ⟨0, id⟩) arguments))
      (apply ⟨s, true, policy⟩ arguments) (apply ⟨s, false, policy⟩ arguments) := by
  refine ⟨answersByPass_of_relaxed (set_relaxed s policy arguments) (set_lenient arguments) ?_,
    answersByPass_of_relaxed (apply_relaxed s policy arguments) (apply_lenient arguments) ?_⟩
  · rw [errorsAlone_eq fun pair => build_single s policy (Argument.toPair pair)]
    exact dropped_passed (fun _ _ => toPair_error) (fun _ _ => setEdit_error) _
  · rw [errorsAlone_eq fun pair => build_single s policy (Argument.toTransformPair pair)]
    exact dropped_passed (fun _ _ => toTransformPair_error) (fun _ _ => edit_error) _

/-- An empty path with a transform, in front of a number in the place of a path. The pair in front
has an error of its own, and it is not the one that is answered first. -/
theorem batches_disorder :
    let misplaced := Error.invalidPathType (Argument.value (.integer 1)).describe
    let front := [.value (.string ""), .transform ⟨1, id⟩]
    let arguments := front ++ [.value (.integer 1), .value .null]
    (set ⟨.standard, true, .plain⟩ front = .error (.invalidPath "") ∧
      set ⟨.standard, true, .plain⟩ arguments = .error misplaced ∧
      set ⟨.standard, false, .plain⟩ arguments = .ok ⟨[], [misplaced, .invalidPath ""]⟩) ∧
    apply ⟨.standard, true, .plain⟩ front = .error (.invalidPath "") ∧
      apply ⟨.standard, true, .plain⟩ arguments = .error misplaced ∧
      apply ⟨.standard, false, .plain⟩ arguments = .ok ⟨[], [misplaced, .invalidPath ""]⟩ := by
  have unread : PathSyntax.standard.parse "" = .error (.invalidPath "") :=
    Grammar.parse_eq_error_iff.mpr ⟨rfl, fun _ denotes => denotes.ne_nil rfl⟩
  generalize PathSyntax.standard = s at unread
  let pair : Pair Transform := ⟨"", ⟨1, id⟩⟩
  have failed (strict : Bool) : applyEdit ⟨s, strict, .plain⟩ pair = .error (.invalidPath "") :=
    congrArg (Except.map _) unread
  refine ⟨⟨rfl, rfl, rfl⟩, ?_, rfl, ?_⟩
  · exact (build_single s .plain (.ok pair)).trans (congrArg (Except.map _) (failed true))
  · rw [apply_lenient]
    change Except.ok (passed ⟨[pair], _⟩ _) = _
    rw [passed, List.map_singleton, failed]
    rfl

end Batch
end PathEdit
