import PathEdit.Argument
import PathEdit.Edit
import PathEdit.Path.Syntax

/-! Flat argument lists as batches of edits.

Arguments alternate between paths and what happens there. A first pass looks at the pairs, a second
one reads their paths. In strict mode the first rejected pair of a pass fails the batch; otherwise
it is dropped, with its error. -/
namespace PathEdit

/-- What happens to the text of every path before it is read. -/
structure KeyPolicy where
  /-- A text put in front of the path. -/
  lead : Option String
  /-- A function applied behind that. -/
  rename : Option (String → String)

namespace KeyPolicy

/-- Leaves paths alone. -/
def plain : KeyPolicy := ⟨none, none⟩

def qualify (policy : KeyPolicy) (path : String) : String :=
  let led := policy.lead.elim path (· ++ path)
  policy.rename.elim led (· led)

end KeyPolicy

/-- What was accepted, and the errors of what was dropped, in order. -/
structure Sifted (α : Type) where
  kept : List α
  dropped : List Error

namespace Sifted

variable {α : Type}

/-- Parts outcomes. In strict mode the first error fails the whole list. -/
def sift (strict : Bool) : List (Except Error α) → Except Error (Sifted α)
  | [] => .ok ⟨[], []⟩
  | .ok a :: rest => do
    let sifted ← sift strict rest
    return { sifted with kept := a :: sifted.kept }
  | .error e :: rest =>
    if strict then .error e
    else do
      let sifted ← sift strict rest
      return { sifted with dropped := e :: sifted.dropped }

end Sifted

/-- A path and what is to happen there. -/
structure Pair (α : Type) where
  path : String
  content : α

namespace Argument

/-- Consecutive pairs, the last one completed by `missing` if need be. -/
def pairs (missing : Argument) : List Argument → List (Argument × Argument)
  | [] => []
  | [path] => [(path, missing)]
  | path :: content :: rest => (path, content) :: pairs missing rest

/-- A pair whose first element is a path. -/
def toPair (pair : Argument × Argument) : Except Error (Pair Argument) :=
  match pair.1.path? with
  | some path => .ok ⟨path, pair.2⟩
  | none => .error (.invalidPathType pair.1.describe)

/-- A pair of a path and a transform. -/
def toTransformPair (pair : Argument × Argument) : Except Error (Pair Transform) :=
  match pair.1.path? with
  | none => .error (.invalidPathType pair.1.describe)
  | some path =>
    match pair.2 with
    | transform t => .ok ⟨path, t⟩
    | value _ => .error (.invalidTransform path)

/-- Pairs of paths with values or transforms; a last path alone gets an empty object. -/
def valuePairs (strict : Bool) (arguments : List Argument) :
    Except Error (Sifted (Pair Argument)) :=
  Sifted.sift strict ((pairs (.value (.object .empty)) arguments).map toPair)

/-- Pairs of paths with transforms; a last path alone gets the identity. -/
def transformPairs (strict : Bool) (arguments : List Argument) :
    Except Error (Sifted (Pair Transform)) :=
  Sifted.sift strict ((pairs (.transform ⟨0, id⟩) arguments).map toTransformPair)

/-- The operation of a pair in a list of values: a transform is applied. -/
def operation : Argument → Operation
  | value v => .set v
  | transform t => .apply t.run

end Argument

/-- How the paths of a batch are read, and what becomes of those that are none. -/
structure Batch where
  syntaxOf : PathSyntax
  strict : Bool
  policy : KeyPolicy

namespace Batch

/-- The edit at a path, read behind the policy. -/
def edit (batch : Batch) (path : String) (operation : Operation) : Except Error Edit :=
  (batch.syntaxOf.parse (batch.policy.qualify path)).map (⟨·, operation⟩)

/-- The edit of a pair. A value at a path that becomes empty replaces the whole root. -/
def setEdit (batch : Batch) (pair : Pair Argument) : Except Error Edit :=
  if (batch.policy.qualify pair.path).isEmpty then
    match pair.content with
    | .value v => .ok ⟨[], .set v⟩
    | .transform _ => .error (.invalidPath pair.path)
  else batch.edit pair.path pair.content.operation

def applyEdit (batch : Batch) (pair : Pair Transform) : Except Error Edit :=
  batch.edit pair.path (.apply pair.content.run)

/-- The edits of the pairs that a first pass kept, behind the errors of that pass. -/
def build {α : Type} (batch : Batch) (pairs : Sifted α) (edit : α → Except Error Edit) :
    Except Error (Sifted Edit) := do
  let edits ← Sifted.sift batch.strict (pairs.kept.map edit)
  return { edits with dropped := pairs.dropped ++ edits.dropped }

/-- The edits that write values, or apply transforms, from a flat list. -/
def set (batch : Batch) (arguments : List Argument) : Except Error (Sifted Edit) := do
  batch.build (← Argument.valuePairs batch.strict arguments) batch.setEdit

/-- The edits that remove what is at the given paths. -/
def unset (batch : Batch) (paths : List String) : Except Error (Sifted Edit) :=
  Sifted.sift batch.strict (paths.map (batch.edit · .unset))

/-- The edits that apply transforms from a flat list. -/
def apply (batch : Batch) (arguments : List Argument) : Except Error (Sifted Edit) := do
  batch.build (← Argument.transformPairs batch.strict arguments) batch.applyEdit

end Batch
end PathEdit
