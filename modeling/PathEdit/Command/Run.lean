import PathEdit.Command.Error
import PathEdit.Document
import PathEdit.Json.Reader

/-! Building a document from an input, assignments and removals, and rendering it. -/
namespace PathEdit.Command

/-- A path and the value assigned to it. -/
structure Assignment where
  path : String
  value : Value

/-- The assignment of a text. The path ends at the first equals sign; what follows is read as JSON,
or taken as it is when it is none. -/
def Assignment.parse (text : String) : Except CommandError Assignment :=
  match text.toList.dropWhile (· != '=') with
  | [] => .error (.invalidAssignment text)
  | _ :: raw =>
    .ok { path := String.ofList (text.toList.takeWhile (· != '='))
          value := (Json.readChars? raw).getD (.string (String.ofList raw)) }

/-- The form of the rendered document. -/
inductive Output where
  | json (layout : Json.Layout)
  | yaml

structure RunOptions where
  /-- A JSON text to start from. -/
  input : Option String
  /-- Whether to start from an array when there is no input. -/
  array : Bool
  options : Options
  /-- Assignments, in order. -/
  sets : List String
  /-- Paths removed behind all assignments. -/
  unsets : List String
  output : Output

/-- The rendered document, and the errors of what was passed over. -/
structure RunOutput where
  text : String
  skipped : List Error

namespace RunOptions

/-- What the document starts from, which must be a container. -/
def root (run : RunOptions) : Except CommandError Value :=
  match run.input with
  | none => .ok (if run.array then .array [] else .object .empty)
  | some text =>
    match Json.read? text with
    | none => .error .invalidJson
    | some value =>
      if value.isContainer then .ok value
      else .error (.editing (.typeMismatch .container value.kind))

/-- Every assignment as two arguments. -/
def arguments : List String → Except CommandError (List Argument)
  | [] => .ok []
  | text :: rest => do
    let assignment ← Assignment.parse text
    let arguments ← arguments rest
    return .value (.string assignment.path) :: .value assignment.value :: arguments

/-- The text of a root in the form asked for. -/
def render (run : RunOptions) (root : Value) : String :=
  match run.output with
  | .json layout => Json.print layout root
  | .yaml => Yaml.print root

/-- The document with all assignments and removals queued. -/
def document (run : RunOptions) (root : Value) (arguments : List Argument) :
    Except Error Document := do
  let document ← Document.ofValueWith run.options root
  let document ← document.set .plain arguments
  document.unset .plain run.unsets

def execute (run : RunOptions) : Except CommandError RunOutput := do
  let root ← run.root
  let arguments ← arguments run.sets
  let document ← (run.document root arguments).mapError .editing
  match document.materialize with
  | (after, .ok root) => return ⟨run.render root, after.errors⟩
  | (_, .error e) => throw (.editing e)

end RunOptions
end PathEdit.Command
