import Mathlib.Data.List.Forall2
import PathEdit.Proofs.Batch.Verdict

/-! Key policies. A batch with a policy does what the batch without one does on rewritten arguments:
each text in the place of a path has gone through the policy before, and everything else is as it
was. The edits are the same, and so are the kinds of the errors; their texts may name a path from
before the policy. -/
namespace PathEdit

/-- What an error is about, without the texts that it names. -/
inductive ErrorKind where
  | path
  | pathType
  | transform
  | mismatch
  | range
  | format
  | record
deriving DecidableEq

def Error.kind : Error → ErrorKind
  | invalidPath _ => .path
  | invalidPathType _ => .pathType
  | invalidTransform _ => .transform
  | typeMismatch _ _ => .mismatch
  | indexOutOfRange _ => .range
  | invalidFormat => .format
  | unserializable => .record

/-- Two outcomes that are related results, or errors of one kind. -/
inductive Alike (related : α → β → Prop) : Except Error α → Except Error β → Prop
  | ok (results : related a b) : Alike related (.ok a) (.ok b)
  | error (kind : e.kind = f.kind) : Alike related (.error e) (.error f)

namespace Alike

variable {related : α → β → Prop} {first : Except Error α} {second : Except Error β}

theorem bind {further : α' → β' → Prop} {next : α → Except Error α'} {next' : β → Except Error β'}
    (alike : Alike related first second)
    (step : ∀ {a b}, related a b → Alike further (next a) (next' b)) :
    Alike further (first >>= next) (second >>= next') := by
  cases alike with
  | ok results => exact step results
  | error kind => exact .error kind

theorem refl {related : α → α → Prop} (same : ∀ a, related a a) (outcome : Except Error α) :
    Alike related outcome outcome := by
  cases outcome with
  | ok a => exact .ok (same a)
  | error e => exact .error rfl

end Alike

/-- Related results, and errors of the same kinds, in the same order. -/
structure Sifted.Alike (related : α → β → Prop) (first : Sifted α) (second : Sifted β) : Prop where
  kept : List.Forall₂ related first.kept second.kept
  dropped : first.dropped.map Error.kind = second.dropped.map Error.kind

theorem Sifted.sift_alike {related : α → β → Prop} {strict : Bool} {first : List (Except Error α)}
    {second : List (Except Error β)} (alike : List.Forall₂ (PathEdit.Alike related) first second) :
    PathEdit.Alike (Sifted.Alike related) (sift strict first) (sift strict second) := by
  induction alike with
  | nil => exact .ok ⟨.nil, rfl⟩
  | cons outcome rest ih =>
    cases outcome with
    | ok results =>
      exact ih.bind fun found => .ok ⟨.cons results found.kept, found.dropped⟩
    | @error e f kind =>
      rw [sift, sift]
      cases strict with
      | true => exact .error kind
      | false =>
        refine ih.bind fun found => .ok ⟨found.kept, ?_⟩
        rw [List.map_cons, List.map_cons, kind, found.dropped]

namespace KeyPolicy

/-- An argument in the place of a path, behind the policy. -/
def rewritePath (policy : KeyPolicy) (argument : Argument) : Argument :=
  match argument.path? with
  | some path => .value (.string (policy.qualify path))
  | none => argument

/-- Arguments of which each text in the place of a path is rewritten. -/
def rewrite (policy : KeyPolicy) (arguments : List Argument) : List Argument :=
  arguments.mapIdx fun i argument => if i % 2 = 0 then policy.rewritePath argument else argument

variable (policy : KeyPolicy)

theorem getElem?_rewrite_path (arguments : List Argument) (i : Nat) :
    (policy.rewrite arguments)[2 * i]? = arguments[2 * i]?.map policy.rewritePath := by
  have even : 2 * i % 2 = 0 := by omega
  simp only [rewrite, List.getElem?_mapIdx, even, if_true]

theorem getElem?_rewrite_content (arguments : List Argument) (i : Nat) :
    (policy.rewrite arguments)[2 * i + 1]? = arguments[2 * i + 1]? := by
  have odd : ¬ (2 * i + 1) % 2 = 0 := by omega
  simp only [rewrite, List.getElem?_mapIdx, odd, if_false, Option.map_id']

/-- The first elements of all pairs are rewritten, and no others. -/
theorem pairs_rewrite (missing : Argument) (arguments : List Argument) :
    Argument.pairs missing (policy.rewrite arguments) =
      (Argument.pairs missing arguments).map fun pair => (policy.rewritePath pair.1, pair.2) := by
  apply List.ext_getElem?
  intro i
  rw [List.getElem?_map, Argument.getElem?_pairs, Argument.getElem?_pairs, getElem?_rewrite_path,
    getElem?_rewrite_content, Option.map_map, Option.map_map]
  rfl

variable {policy}

theorem path?_rewritePath (argument : Argument) :
    (policy.rewritePath argument).path? = argument.path?.map policy.qualify := by
  rw [rewritePath]
  cases found : argument.path? with
  | none => exact found
  | some path => rfl

end KeyPolicy

namespace Batch

/-- The edits of one batch and of another one are the same, and so are the kinds of their errors. -/
structure SameEdits (first second : Sifted Edit) : Prop where
  kept : first.kept = second.kept
  dropped : first.dropped.map Error.kind = second.dropped.map Error.kind

/-- Pairs with the same content, of which the second one has its path behind the policy. -/
def Rewritten (policy : KeyPolicy) (first second : Pair α) : Prop :=
  second = ⟨policy.qualify first.path, first.content⟩

variable {s : PathSyntax} {strict : Bool} {policy : KeyPolicy}

theorem toPair_rewritten (pair : Argument × Argument) :
    Alike (Rewritten policy) (Argument.toPair pair)
      (Argument.toPair (policy.rewritePath pair.1, pair.2)) := by
  rw [Argument.toPair, Argument.toPair, KeyPolicy.path?_rewritePath]
  cases pair.1.path? with
  | none => exact .error rfl
  | some path => exact .ok rfl

theorem toTransformPair_rewritten (pair : Argument × Argument) :
    Alike (Rewritten policy) (Argument.toTransformPair pair)
      (Argument.toTransformPair (policy.rewritePath pair.1, pair.2)) := by
  rw [Argument.toTransformPair, Argument.toTransformPair, KeyPolicy.path?_rewritePath]
  cases pair.1.path? with
  | none => exact .error rfl
  | some path =>
    cases pair.2 with
    | value => exact .error rfl
    | transform => exact .ok rfl

theorem setEdit_rewritten (pair : Pair Argument) :
    Alike Eq (setEdit ⟨s, strict, policy⟩ pair)
      (setEdit ⟨s, strict, .plain⟩ ⟨policy.qualify pair.path, pair.content⟩) := by
  obtain ⟨path, content⟩ := pair
  -- the strictness of a batch does not matter for a single edit
  change Alike Eq (setEdit ⟨s, false, policy⟩ ⟨path, content⟩)
    (setEdit ⟨s, false, .plain⟩ ⟨policy.qualify path, content⟩)
  by_cases none : policy.qualify path = ""
  · have plain : KeyPolicy.plain.qualify (policy.qualify path) = "" := none
    rw [setEdit_of_empty none, setEdit_of_empty plain]
    cases content with
    | value => exact .ok rfl
    | transform => exact .error rfl
  · have plain : KeyPolicy.plain.qualify (policy.qualify path) ≠ "" := none
    rw [setEdit_of_ne_empty none, setEdit_of_ne_empty plain]
    exact .refl (fun _ => rfl) _

/-- Batches of pairs that are alike but for the policy. -/
theorem build_rewritten {pairs : List (Argument × Argument)}
    {look : Argument × Argument → Except Error (Pair α)} {edit edit' : Pair α → Except Error Edit}
    (looks : ∀ pair,
      Alike (Rewritten policy) (look pair) (look (policy.rewritePath pair.1, pair.2)))
    (edits : ∀ pair, Alike Eq (edit pair) (edit' ⟨policy.qualify pair.path, pair.content⟩)) :
    Alike SameEdits
      (Sifted.sift strict (pairs.map look) >>= fun found => build ⟨s, strict, policy⟩ found edit)
      (Sifted.sift strict ((pairs.map fun pair => (policy.rewritePath pair.1, pair.2)).map look) >>=
        fun found => build ⟨s, strict, .plain⟩ found edit') := by
  have first : List.Forall₂ (Alike (Rewritten policy)) (pairs.map look)
      ((pairs.map fun pair => (policy.rewritePath pair.1, pair.2)).map look) := by
    rw [List.map_map, List.forall₂_map_left_iff, List.forall₂_map_right_iff, List.forall₂_same]
    exact fun pair _ => looks pair
  refine (Sifted.sift_alike first).bind fun {found found'} looked => ?_
  have second : List.Forall₂ (Alike Eq) (found.kept.map edit) (found'.kept.map edit') := by
    rw [List.forall₂_map_left_iff, List.forall₂_map_right_iff]
    refine looked.kept.imp fun pair pair' rewritten => ?_
    rw [rewritten]
    exact edits pair
  refine (Sifted.sift_alike second).bind fun edited => .ok ⟨?_, ?_⟩
  · exact List.forall₂_eq_eq_eq ▸ edited.kept
  · rw [List.map_append, List.map_append, looked.dropped, edited.dropped]

/-- Batches with a policy, strict or lenient, are those without one of the rewritten arguments:
their edits are the same, and their errors are of the same kinds in the same order. -/
theorem batches_rewritten (s : PathSyntax) (strict : Bool) (policy : KeyPolicy)
    (arguments : List Argument) (paths : List String) :
    Alike SameEdits (set ⟨s, strict, policy⟩ arguments)
        (set ⟨s, strict, .plain⟩ (policy.rewrite arguments)) ∧
      Alike SameEdits (apply ⟨s, strict, policy⟩ arguments)
        (apply ⟨s, strict, .plain⟩ (policy.rewrite arguments)) ∧
      Alike SameEdits (unset ⟨s, strict, policy⟩ paths)
        (unset ⟨s, strict, .plain⟩ (paths.map policy.qualify)) := by
  refine ⟨?_, ?_, ?_⟩
  · rw [set, set, Argument.valuePairs, Argument.valuePairs, KeyPolicy.pairs_rewrite]
    exact build_rewritten toPair_rewritten setEdit_rewritten
  · rw [apply, apply, Argument.transformPairs, Argument.transformPairs, KeyPolicy.pairs_rewrite]
    exact build_rewritten toTransformPair_rewritten fun _ => .refl (fun _ => rfl) _
  · rw [unset, unset, List.map_map]
    exact .refl (fun _ => ⟨rfl, rfl⟩) _

end Batch
end PathEdit
