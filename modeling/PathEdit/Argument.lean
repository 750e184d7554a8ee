import PathEdit.Json.Printer

/-! Elements of flat argument lists: values, among them the texts of paths, and transforms. -/
namespace PathEdit

namespace Value

mutual

/-- Equality of trees with floats compared as numbers, so that a NaN equals nothing. -/
def sameTree : Tree → Tree → Bool
  | .null, .null => true
  | .boolean a, .boolean b => a == b
  | .integer a, .integer b => a == b
  | .float a, .float b => a.sameNumber b
  | .string a, .string b => a == b
  | .array a, .array b => sameItems a b
  | .object a, .object b => sameEntries a b
  | _, _ => false

def sameItems : List Tree → List Tree → Bool
  | [], [] => true
  | a :: as, b :: bs => sameTree a b && sameItems as bs
  | _, _ => false

def sameEntries : List (String × Tree) → List (String × Tree) → Bool
  | [], [] => true
  | (key, a) :: as, (key', b) :: bs => key == key' && sameTree a b && sameEntries as bs
  | _, _ => false

end

/-- Whether two values agree, with floats compared as numbers. -/
def same (left right : Value) : Bool := sameTree left.tree right.tree

end Value

/-- A function of values under a label that its copies share. -/
structure Transform where
  label : Nat
  run : Value → Value

inductive Argument where
  | value (value : Value)
  | transform (transform : Transform)

namespace Argument

/-- The path that an argument stands for; only a text is one. -/
def path? : Argument → Option String
  | value v => v.string?
  | transform _ => none

/-- The argument as it is named in errors. -/
def describe : Argument → String
  | value v => s!"{Json.print .compact v} ({v.kind.name})"
  | transform _ => "<function>"

/-- Whether two arguments agree. A transform agrees with its copies only. -/
def same : Argument → Argument → Bool
  | value a, value b => a.same b
  | transform a, transform b => a.label == b.label
  | _, _ => false

end Argument
end PathEdit
