import PathEdit.Proofs.Batch.Grouping
import PathEdit.Proofs.Batch.Origin

/-! What comes of the entries of a lenient batch, one by one. Each of them either is an edit, of its
own path and its own content, or has one error; the edits are in the order of the entries. So nothing
is lost on the way through two passes, and no path gets the content of another one. -/
namespace PathEdit

namespace Sifted

theorem ofOutcomes_ok (a : α) (rest : List (Except Error α)) :
    ofOutcomes (.ok a :: rest) = ⟨a :: (ofOutcomes rest).kept, (ofOutcomes rest).dropped⟩ := rfl

theorem ofOutcomes_error (e : Error) (rest : List (Except Error α)) :
    ofOutcomes (.error e :: rest) = ⟨(ofOutcomes rest).kept, e :: (ofOutcomes rest).dropped⟩ := rfl

theorem length_ofOutcomes (outcomes : List (Except Error α)) :
    (ofOutcomes outcomes).kept.length + (ofOutcomes outcomes).dropped.length =
      outcomes.length := by
  induction outcomes with
  | nil => rfl
  | cons outcome rest ih =>
    cases outcome with
    | ok a =>
      simp only [ofOutcomes_ok, List.length_cons]
      omega
    | error e =>
      simp only [ofOutcomes_error, List.length_cons]
      omega

end Sifted

/-- A list of arguments has half as many pairs, the last one of which may be completed. -/
theorem Argument.length_pairs (missing : Argument) (arguments : List Argument) :
    (pairs missing arguments).length = (arguments.length + 1) / 2 := by
  induction arguments using pairs.induct with
  | case1 => rfl
  | case2 path => simp [pairs]
  | case3 path content rest ih =>
    rw [pairs, List.length_cons, ih, List.length_cons, List.length_cons]
    omega

/-- The pairs of a list of arguments are its consecutive elements, two by two. -/
theorem Argument.getElem?_pairs (missing : Argument) (arguments : List Argument) (i : Nat) :
    (pairs missing arguments)[i]? =
      arguments[2 * i]?.map fun path => (path, arguments[2 * i + 1]?.getD missing) := by
  induction arguments using pairs.induct generalizing i with
  | case1 => rfl
  | case2 path => cases i <;> rfl
  | case3 path content rest ih =>
    cases i with
    | zero => rfl
    | succ i => exact ih i

namespace Batch

/-- What comes of a pair in a list of writes. -/
inductive Writes (s : PathSyntax) (policy : KeyPolicy) :
    Argument × Argument → Except Error Edit → Prop
  | value (some : policy.qualify path ≠ "") (read : s.parse (policy.qualify path) = .ok steps) :
      Writes s policy (.value (.string path), .value value) (.ok ⟨steps, .set value⟩)
  | transform (some : policy.qualify path ≠ "") (read : s.parse (policy.qualify path) = .ok steps) :
      Writes s policy (.value (.string path), .transform t) (.ok ⟨steps, .apply t.run⟩)
  | root (none : policy.qualify path = "") :
      Writes s policy (.value (.string path), .value value) (.ok ⟨[], .set value⟩)
  | transformOfRoot (none : policy.qualify path = "") :
      Writes s policy (.value (.string path), .transform t) (.error (.invalidPath path))
  | unread (some : policy.qualify path ≠ "") (failed : s.parse (policy.qualify path) = .error e) :
      Writes s policy (.value (.string path), content) (.error e)
  | pathless (other : ∀ path, first ≠ .value (.string path)) :
      Writes s policy (first, content) (.error (.invalidPathType first.describe))

/-- What comes of a pair in a list of transforms. -/
inductive Applies (s : PathSyntax) (policy : KeyPolicy) :
    Argument × Argument → Except Error Edit → Prop
  | transform (read : s.parse (policy.qualify path) = .ok steps) :
      Applies s policy (.value (.string path), .transform t) (.ok ⟨steps, .apply t.run⟩)
  | unread (failed : s.parse (policy.qualify path) = .error e) :
      Applies s policy (.value (.string path), .transform t) (.error e)
  | value : Applies s policy (.value (.string path), .value value) (.error (.invalidTransform path))
  | pathless (other : ∀ path, first ≠ .value (.string path)) :
      Applies s policy (first, content) (.error (.invalidPathType first.describe))

/-- What comes of a path in a list of removals. -/
inductive Removes (s : PathSyntax) (policy : KeyPolicy) : String → Except Error Edit → Prop
  | path (read : s.parse (policy.qualify path) = .ok steps) :
      Removes s policy path (.ok ⟨steps, .unset⟩)
  | unread (failed : s.parse (policy.qualify path) = .error e) : Removes s policy path (.error e)

/-- A batch whose entries are judged one by one: there is one verdict on each entry, the edits are
those of the accepted ones in the order of the entries, and the errors are those of all others. -/
def Judges (verdict : α → Except Error Edit → Prop) (entries : List α) (sifted : Sifted Edit) :
    Prop :=
  ∃ judge : α → Except Error Edit,
    (∀ entry outcome, verdict entry outcome ↔ judge entry = outcome) ∧
    sifted.kept = (Sifted.ofOutcomes (entries.map judge)).kept ∧
    sifted.dropped.Perm (Sifted.ofOutcomes (entries.map judge)).dropped

variable {verdict : α → Except Error Edit → Prop} {judge : α → Except Error Edit}
  {entries : List α} {sifted : Sifted Edit}

theorem Judges.length (judges : Judges verdict entries sifted) :
    sifted.kept.length + sifted.dropped.length = entries.length := by
  obtain ⟨judge, -, kept, dropped⟩ := judges
  rw [kept, dropped.length_eq, Sifted.length_ofOutcomes, List.length_map]

/-- Two passes come to what one pass comes to that looks at each entry and reads its path at once. -/
theorem passed_ofOutcomes (look : α → Except Error β) (edit : β → Except Error Edit)
    (entries : List α) :
    let both := Sifted.ofOutcomes (entries.map fun entry => look entry >>= edit)
    let sifted := passed (.ofOutcomes (entries.map look)) edit
    sifted.kept = both.kept ∧ sifted.dropped.Perm both.dropped := by
  induction entries with
  | nil => exact ⟨rfl, .nil⟩
  | cons entry rest ih =>
    obtain ⟨kept, dropped⟩ := ih
    rw [List.map_cons, List.map_cons]
    cases look entry with
    | error e => exact ⟨kept, .cons e dropped⟩
    | ok found =>
      have read : Except.ok found >>= edit = edit found := rfl
      rw [Sifted.ofOutcomes_ok, passed, List.map_cons, read]
      cases edit found with
      | ok edit => exact ⟨congrArg (edit :: ·) kept, dropped⟩
      | error e => exact ⟨kept, List.perm_middle.trans (.cons e dropped)⟩

variable {s : PathSyntax} {policy : KeyPolicy} {path : String} {content : Argument}

theorem setEdit_of_empty (none : policy.qualify path = "") (content : Argument) :
    setEdit ⟨s, false, policy⟩ ⟨path, content⟩ =
      match content with
      | .value value => .ok ⟨[], .set value⟩
      | .transform _ => .error (.invalidPath path) :=
  if_pos (String.isEmpty_iff.mpr none)

theorem setEdit_of_ne_empty (some : policy.qualify path ≠ "") (content : Argument) :
    setEdit ⟨s, false, policy⟩ ⟨path, content⟩ =
      (s.parse (policy.qualify path)).map (⟨·, content.operation⟩) :=
  if_neg (mt String.isEmpty_iff.mp some)

/-- The outcome of a pair whose first element is no text. -/
theorem path?_of_pathless {first : Argument} (other : ∀ path, first ≠ .value (.string path)) :
    first.path? = none := by
  cases found : first.path? with
  | none => rfl
  | some path => exact absurd (Argument.eq_of_path? found) (other path)

theorem toPair_of_pathless {first : Argument} (other : ∀ path, first ≠ .value (.string path))
    (content : Argument) :
    Argument.toPair (first, content) = .error (.invalidPathType first.describe) := by
  simp only [Argument.toPair, path?_of_pathless other]

theorem toTransformPair_of_pathless {first : Argument}
    (other : ∀ path, first ≠ .value (.string path)) (content : Argument) :
    Argument.toTransformPair (first, content) = .error (.invalidPathType first.describe) := by
  simp only [Argument.toTransformPair, path?_of_pathless other]

theorem writes_iff (s : PathSyntax) (policy : KeyPolicy) (pair : Argument × Argument)
    (outcome : Except Error Edit) : Writes s policy pair outcome ↔
      (Argument.toPair pair >>= setEdit ⟨s, false, policy⟩) = outcome := by
  constructor
  · intro verdict
    cases verdict with
    | value some read | transform some read | unread some read =>
      exact (setEdit_of_ne_empty some _).trans (by rw [read]; rfl)
    | root none | transformOfRoot none => exact setEdit_of_empty none _
    | pathless other =>
      rw [toPair_of_pathless other]
      rfl
  · rintro rfl
    obtain ⟨first, content⟩ := pair
    by_cases text : ∃ path, first = .value (.string path)
    · obtain ⟨path, rfl⟩ := text
      change Writes s policy _ (setEdit ⟨s, false, policy⟩ ⟨path, content⟩)
      by_cases none : policy.qualify path = ""
      · rw [setEdit_of_empty none]
        cases content with
        | value => exact .root none
        | transform => exact .transformOfRoot none
      · rw [setEdit_of_ne_empty none]
        cases read : s.parse (policy.qualify path) with
        | error e => exact .unread none read
        | ok steps =>
          cases content with
          | value => exact .value none read
          | transform => exact .transform none read
    · have other := not_exists.mp text
      rw [toPair_of_pathless other]
      exact .pathless other

theorem applies_iff (s : PathSyntax) (policy : KeyPolicy) (pair : Argument × Argument)
    (outcome : Except Error Edit) : Applies s policy pair outcome ↔
      (Argument.toTransformPair pair >>= applyEdit ⟨s, false, policy⟩) = outcome := by
  constructor
  · intro verdict
    cases verdict with
    | @transform path _ t read | @unread path e t read =>
      change (s.parse (policy.qualify path)).map _ = _
      rw [read]
      rfl
    | value => rfl
    | pathless other =>
      rw [toTransformPair_of_pathless other]
      rfl
  · rintro rfl
    obtain ⟨first, content⟩ := pair
    by_cases text : ∃ path, first = .value (.string path)
    · obtain ⟨path, rfl⟩ := text
      cases content with
      | value => exact .value
      | transform t =>
        change Applies s policy _ ((s.parse (policy.qualify path)).map _)
        cases read : s.parse (policy.qualify path) with
        | error e => exact .unread read
        | ok steps => exact .transform read
    · have other := not_exists.mp text
      rw [toTransformPair_of_pathless other]
      exact .pathless other

theorem removes_iff (s : PathSyntax) (policy : KeyPolicy) (path : String)
    (outcome : Except Error Edit) : Removes s policy path outcome ↔
      edit ⟨s, false, policy⟩ path .unset = outcome := by
  rw [edit]
  constructor
  · intro verdict
    cases verdict with
    | path read | unread read =>
      rw [read]
      rfl
  · rintro rfl
    cases read : s.parse (policy.qualify path) with
    | error e => exact .unread read
    | ok steps => exact .path read

/-- Lenient batches of writes, transforms and removals judge every pair of arguments, or every path,
once and by itself. The arguments are paired two by two, and a last path alone is completed by an
empty object or by the identity. The edits and the errors together are as many as the pairs, which
are half of the arguments, or as the paths. -/
theorem batches_judge (s : PathSyntax) (policy : KeyPolicy) (arguments : List Argument)
    (paths : List String) :
    (∀ missing i, (Argument.pairs missing arguments)[i]? =
      arguments[2 * i]?.map fun path => (path, arguments[2 * i + 1]?.getD missing)) ∧
    (∃ sifted, set ⟨s, false, policy⟩ arguments = .ok sifted ∧
      Judges (Writes s policy) (Argument.pairs (.value (.object .empty)) arguments) sifted ∧
      sifted.kept.length + sifted.dropped.length = (arguments.length + 1) / 2) ∧
    (∃ sifted, apply ⟨s, false, policy⟩ arguments = .ok sifted ∧
      Judges (Applies s policy) (Argument.pairs (.transform ⟨0, id⟩) arguments) sifted ∧
      sifted.kept.length + sifted.dropped.length = (arguments.length + 1) / 2) ∧
    ∃ sifted, unset ⟨s, false, policy⟩ paths = .ok sifted ∧
      Judges (Removes s policy) paths sifted ∧
      sifted.kept.length + sifted.dropped.length = paths.length := by
  have written : Judges (Writes s policy) (Argument.pairs (.value (.object .empty)) arguments) _ :=
    ⟨_, writes_iff s policy, passed_ofOutcomes _ _ _⟩
  have applied : Judges (Applies s policy) (Argument.pairs (.transform ⟨0, id⟩) arguments) _ :=
    ⟨_, applies_iff s policy, passed_ofOutcomes _ _ _⟩
  have removed : Judges (Removes s policy) paths _ := ⟨_, removes_iff s policy, rfl, .refl _⟩
  refine ⟨fun missing i => Argument.getElem?_pairs missing arguments i,
    ⟨_, set_lenient arguments, written, ?_⟩, ⟨_, apply_lenient arguments, applied, ?_⟩,
    _, Sifted.sift_lenient _, removed, removed.length⟩
  · exact written.length.trans (Argument.length_pairs _ _)
  · exact applied.length.trans (Argument.length_pairs _ _)

end Batch
end PathEdit
