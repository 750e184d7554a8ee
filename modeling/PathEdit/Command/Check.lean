import PathEdit.Command.Error
import PathEdit.Document

/-! Checking path expressions. -/
namespace PathEdit.Command

/-- A path as it was given, and its canonical text or why it is none. -/
structure CheckedPath where
  path : String
  result : Except Error String

namespace CheckedPath

def check (s : PathSyntax) (path : String) : CheckedPath :=
  ⟨path, (s.parse path).map Path.text⟩

/-- Checks paths in order. In strict mode the first invalid one is an error. -/
def checkAll (strict : Bool) (s : PathSyntax) : List String → Except Error (List CheckedPath)
  | [] => .ok []
  | path :: rest =>
    let checked := check s path
    match strict, checked.result with
    | true, .error e => .error e
    | _, _ => (checkAll strict s rest).map (checked :: ·)

end CheckedPath

/-- The outcome for every path. -/
def executeCheck (options : Options) (paths : List String) :
    Except Error (List CheckedPath) :=
  match PathSyntax.ofFormat? options.format with
  | none => .error .invalidFormat
  | some s => CheckedPath.checkAll options.strict s paths

end PathEdit.Command
