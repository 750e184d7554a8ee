import PathEdit.Datum
import PathEdit.Inspect
import PathEdit.Main
import PathEdit.Proofs.Document.Agreement
import PathEdit.Proofs.Document.Rebuilding
import PathEdit.Proofs.Path.Quotes
import PathEdit.Proofs.Document.Failure
import PathEdit.Proofs.Batch.Grouping
import PathEdit.Proofs.Document.Grouping
import PathEdit.Proofs.Value.Shape
import PathEdit.Proofs.Json.Numerals
import PathEdit.Proofs.Json.Strings
import PathEdit.Proofs.Json.Reading
import PathEdit.Proofs.Json.RoundTrip
import PathEdit.Proofs.Binary64.Nearest
import PathEdit.Proofs.Binary64.Shortest
import PathEdit.Proofs.Binary64.Whole
import PathEdit.Proofs.Json.FloatTexts
import PathEdit.Proofs.Json.Overflow
import PathEdit.Proofs.Json.NumberKinds
import PathEdit.Proofs.Command.Rerun
import PathEdit.Proofs.Regex.Soundness
import PathEdit.Proofs.Regex.Loop
import PathEdit.Proofs.Path.Frame
import PathEdit.Proofs.Path.Canonical
import PathEdit.Proofs.Path.Conventional
import PathEdit.Proofs.Path.Ending
import PathEdit.Proofs.Command.Check
import PathEdit.Proofs.Path.Formats
import PathEdit.Proofs.Regex.Reader.Escape
import PathEdit.Proofs.Regex.Reader.Class
import PathEdit.Proofs.Regex.Reader.Token
import PathEdit.Proofs.Regex.Reader.Paste
import PathEdit.Proofs.Regex.Groups
import PathEdit.Proofs.Regex.Reader.Names
import PathEdit.Proofs.Path.Pasting
import PathEdit.Proofs.Edit.Exchange
import PathEdit.Proofs.Edit.Beside
import PathEdit.Proofs.Edit.Nesting
import PathEdit.Proofs.Document.Root
import PathEdit.Proofs.Edit.Removal
import PathEdit.Proofs.Edit.Wildcard
import PathEdit.Proofs.Edit.Shrinking
import PathEdit.Proofs.Edit.InPlace
import PathEdit.Proofs.Edit.Lengths
import PathEdit.Proofs.Batch.Verdict
import PathEdit.Proofs.Batch.Order
import PathEdit.Proofs.Batch.Policy
import PathEdit.Proofs.Binary64.Characters
import PathEdit.Proofs.Json.Brackets
import PathEdit.Proofs.Json.Lines
import PathEdit.Proofs.Unicode.Solid
import PathEdit.Proofs.Yaml.Ending
import PathEdit.Proofs.Command.Printing
import PathEdit.Proofs.Binary64.Exact
import PathEdit.Proofs.Value.Finite
import PathEdit.Proofs.Datum
