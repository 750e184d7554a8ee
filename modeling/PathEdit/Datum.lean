import PathEdit.Record

/-! Plain data of a program, and the two ways from it into values: at once, and through the record
that describes it. -/
namespace PathEdit

/-- Scalars, optional data, lists, and maps from names. -/
inductive Datum where
  | boolean (b : Bool)
  /-- An integer with sign, of 64 bits or fewer. -/
  | signed (n : Int64)
  /-- An integer without sign, of 32 bits or fewer. -/
  | short (n : UInt32)
  /-- An integer without sign, of 64 bits. -/
  | unsigned (n : UInt64)
  | single (x : Binary32)
  | double (x : Binary64)
  | text (s : String)
  | absent
  | present (content : Datum)
  | list (items : List Datum)
  /-- Of two entries under one name the later one counts. -/
  | mapping (entries : List (String × Datum))

namespace Datum

mutual

/-- The value of a datum. Integers without sign that do not fit with one become floats, and floats
are kept as they are. -/
def toValue : Datum → Value
  | boolean b => .boolean b
  | signed n => .integer n
  | short n => .integer (.ofNat n.toNat)
  | unsigned n => .ofNat n.toNat
  | single x => .float x.widen
  | double x => .float x
  | text s => .string s
  | absent => .null
  | present content => content.toValue
  | list items => .array (toValues items)
  | mapping entries => .object (.ofList (toEntries entries))

def toValues : List Datum → List Value
  | [] => []
  | item :: rest => item.toValue :: toValues rest

def toEntries : List (String × Datum) → List (String × Value)
  | [] => []
  | (name, item) :: rest => (name, item.toValue) :: toEntries rest

end

mutual

/-- The record that describes a datum. -/
def toRecord : Datum → Record
  | boolean b => .boolean b
  | signed n => .integer n.toInt
  | short n => .integer n.toNat
  | unsigned n => .integer n.toNat
  | single x => .single x
  | double x => .double x
  | text s => .text s
  | absent => .absent
  | present content => .present content.toRecord
  | list items => .sequence (toRecords items)
  | mapping entries => .mapping (toMapping entries)

def toRecords : List Datum → List Record
  | [] => []
  | item :: rest => item.toRecord :: toRecords rest

def toMapping : List (String × Datum) → List (Record × Record)
  | [] => []
  | (name, item) :: rest => (.text name, item.toRecord) :: toMapping rest

end

end Datum
end PathEdit
