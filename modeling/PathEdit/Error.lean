import PathEdit.Value.Basic

/-! What can go wrong in reading paths, taking argument lists apart, and editing. -/
namespace PathEdit

/-- The largest position of an element: an array grows up to it. -/
def maxPosition : UInt64 := 100000

/-- What a value had to be. -/
inductive Expected where
  | object
  | array
  | container
  /-- The shape of a typed value. -/
  | shape
deriving DecidableEq

def Expected.name : Expected → String
  | object => "object"
  | array => "array"
  | container => "object or array"
  | shape => "value of the requested shape"

inductive Error where
  /-- The text is no path. -/
  | invalidPath (path : String)
  /-- Something other than a text stands in the place of a path. -/
  | invalidPathType (found : String)
  /-- Something other than a transform stands in the place of one. -/
  | invalidTransform (path : String)
  | typeMismatch (expected : Expected) (found : Kind)
  /-- A position beyond the largest one. -/
  | indexOutOfRange (index : UInt64)
  /-- The format of names is no regular expression. -/
  | invalidFormat
  /-- A record has no counterpart among values. -/
  | unserializable
deriving DecidableEq

namespace Error

def message : Error → String
  | invalidPath path => s!"invalid path '{path}': path doesn't match the defined format"
  | invalidPathType found => s!"invalid path {found}: paths must be strings"
  | invalidTransform path =>
    s!"invalid transform for path '{path}': expected a function of one value"
  | typeMismatch expected found =>
    s!"type mismatch: expected {expected.name}, found {found.name}"
  | indexOutOfRange index =>
    s!"index {index} is out of range: sequences grow up to index {maxPosition}"
  | invalidFormat => "invalid attribute name format: not a regular expression"
  | unserializable => "serialization error: the record has no counterpart among values"

end Error
end PathEdit
