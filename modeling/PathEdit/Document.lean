import PathEdit.Batch
import PathEdit.Record
import PathEdit.Schema
import PathEdit.Yaml.Printer

/-! Documents: a root with edits queued against it.

Calls that change a document only read paths and queue edits; the edits run when the document is
materialized, in the order of submission. In lenient mode what fails is passed over and its error
collected. In strict mode the first error is the answer of its call; a queue that fails is
discarded, and the content stays as it was. -/
namespace PathEdit

/-- How a document reads paths and meets errors. -/
structure Options where
  strict : Bool
  format : String

/-- Lenient, with the standard format of names. -/
def Options.standard : Options := ⟨false, standardFormat⟩

structure Document where
  strict : Bool
  syntaxOf : PathSyntax
  content : Value
  queue : List Edit
  errors : List Error

namespace Document

/-- A document without queued edits. A scalar starts as an empty object. -/
def start (strict : Bool) (syntaxOf : PathSyntax) (content : Value) : Document :=
  { strict, syntaxOf, queue := [], errors := []
    content := if content.isContainer then content else .object .empty }

/-- A lenient document with the standard format of names. -/
def ofValue (content : Value) : Document := start false .standard content

/-- A document with options, unless its format is no regular expression. -/
def ofValueWith (options : Options) (content : Value) : Except Error Document :=
  match PathSyntax.ofFormat? options.format with
  | some s => .ok (start options.strict s content)
  | none => .error .invalidFormat

theorem start_container (strict : Bool) (s : PathSyntax) {content : Value}
    (container : content.isContainer = true) :
    start strict s content = ⟨strict, s, content, [], []⟩ := by
  rw [start, if_pos container]

theorem ofValueWith_of_accepted {options : Options} {s : PathSyntax}
    (accepted : PathSyntax.ofFormat? options.format = some s) (content : Value) :
    ofValueWith options content = .ok (start options.strict s content) := by
  unfold ofValueWith
  rw [accepted]

theorem ofValueWith_ok {options : Options} {content : Value} {document : Document}
    (outcome : ofValueWith options content = .ok document) :
    ∃ s, PathSyntax.ofFormat? options.format = some s ∧
      document = start options.strict s content := by
  unfold ofValueWith at outcome
  split at outcome
  · rename_i s accepted
    exact ⟨s, accepted, (Except.ok.inj outcome).symm⟩
  · cases outcome

/-- A document from a typed record, which must become a container. -/
def ofRecord (options : Options) (record : Record) : Except Error Document := do
  let value ← record.coerce
  if value.isContainer then ofValueWith options value
  else .error (.typeMismatch .container value.kind)

/-- How the document takes argument lists apart. -/
def batch (document : Document) (policy : KeyPolicy) : Batch :=
  ⟨document.syntaxOf, document.strict, policy⟩

/-- Queues the edits of a batch and collects the errors of what it dropped. -/
def enqueue (document : Document) (edits : Sifted Edit) : Document :=
  { document with
    queue := document.queue ++ edits.kept
    errors := document.errors ++ edits.dropped }

/-- Queues writes from a flat list of paths and values. -/
def set (document : Document) (policy : KeyPolicy) (arguments : List Argument) :
    Except Error Document :=
  ((document.batch policy).set arguments).map document.enqueue

/-- Queues removals. -/
def unset (document : Document) (policy : KeyPolicy) (paths : List String) :
    Except Error Document :=
  ((document.batch policy).unset paths).map document.enqueue

/-- Queues transforms from a flat list of paths and transforms. -/
def apply (document : Document) (policy : KeyPolicy) (arguments : List Argument) :
    Except Error Document :=
  ((document.batch policy).apply arguments).map document.enqueue

/-- Runs edits one after the other. An edit that fails leaves the root alone, and fails the whole
run in strict mode. -/
def runEdits (strict : Bool) : List Edit → Value → Except Error (Value × List Error)
  | [], root => .ok (root, [])
  | edit :: rest, root =>
    match edit.run root with
    | .ok root => runEdits strict rest root
    | .error e =>
      if strict then .error e
      else (runEdits strict rest root).map fun (root, errors) => (root, e :: errors)

/-- Runs the queue, and gives the root that it leaves. -/
def materialize (document : Document) : Document × Except Error Value :=
  match runEdits document.strict document.queue document.content with
  | .ok (root, errors) =>
    ({ document with content := root, queue := [], errors := document.errors ++ errors }, .ok root)
  | .error e => ({ document with queue := [] }, .error e)

/-- Takes the collected errors away. -/
def takeErrors (document : Document) : Document × List Error :=
  ({ document with errors := [] }, document.errors)

end Document

/-- A request to a document. -/
inductive Call where
  | set (policy : KeyPolicy) (arguments : List Argument)
  | unset (policy : KeyPolicy) (paths : List String)
  | apply (policy : KeyPolicy) (arguments : List Argument)
  | materialize
  | json (layout : Json.Layout)
  | yaml
  | decode (schema : Schema)
  | errors
  | takeErrors

/-- What a request answers. -/
inductive Reply where
  | done
  | value (value : Value)
  | text (text : String)
  | errors (errors : List Error)
  | failure (error : Error)

namespace Document

/-- The document after a request that may fail, which then changes nothing. -/
def settle (document : Document) : Except Error Document → Document × Reply
  | .ok changed => (changed, .done)
  | .error e => (document, .failure e)

/-- Materializes the document and answers with something made of its root. -/
def render (document : Document) (reply : Value → Reply) : Document × Reply :=
  match document.materialize with
  | (after, .ok root) => (after, reply root)
  | (after, .error e) => (after, .failure e)

def perform (document : Document) : Call → Document × Reply
  | .set policy arguments => document.settle (document.set policy arguments)
  | .unset policy paths => document.settle (document.unset policy paths)
  | .apply policy arguments => document.settle (document.apply policy arguments)
  | .materialize => document.render .value
  | .json layout => document.render fun root => .text (Json.print layout root)
  | .yaml => document.render fun root => .text (Yaml.print root)
  | .decode schema =>
    document.render fun root =>
      match root.decode? schema with
      | some value => .value value
      | none => .failure (.typeMismatch .shape root.kind)
  | .errors => (document, .errors document.errors)
  | .takeErrors =>
    let (after, errors) := document.takeErrors
    (after, .errors errors)

end Document
end PathEdit
