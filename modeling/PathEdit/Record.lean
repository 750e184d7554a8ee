import PathEdit.Binary32
import PathEdit.Error
import PathEdit.Json.Node

/-! Typed records, described by what they are made of, and the values they become by way of JSON
documents. -/
namespace PathEdit

/-- A typed value as its constituents. -/
inductive Record where
  | boolean (b : Bool)
  /-- An integer of any width. -/
  | integer (n : Int)
  | single (x : Binary32)
  | double (x : Binary64)
  | char (c : Char)
  | text (s : String)
  | bytes (bytes : List UInt8)
  | unit
  | absent
  | present (content : Record)
  | sequence (items : List Record)
  | tuple (items : List Record)
  | mapping (entries : List (Record × Record))
  | struct (fields : List (String × Record))
  | unitVariant (name : String)
  | valueVariant (name : String) (content : Record)
  | tupleVariant (name : String) (items : List Record)
  | structVariant (name : String) (fields : List (String × Record))

namespace Record

/-- Floats as names are written with a fraction, and without an exponent near one. -/
def doubleNameStyle : Binary64.Style := ⟨.even, true, some (-5, 15)⟩

def singleNameStyle : Binary64.Style := ⟨.even, true, some (-6, 12)⟩

/-- The name that a record gives to an entry: texts, numbers, booleans and bare variants have one. -/
def name? : Record → Option String
  | text s => some s
  | char c => some (String.singleton c)
  | unitVariant name => some name
  | boolean b => some (if b then "true" else "false")
  | integer n => some (toString n)
  | single x => if x.isFinite then some (String.ofList (x.chars singleNameStyle)) else none
  | double x => if x.isFinite then some (String.ofList (doubleNameStyle.chars x)) else none
  | _ => none

/-- An object with one entry. -/
def tagged (name : String) (content : Json.Node) : Json.Node := .object [(name, content)]

mutual

/-- The document of a record, if it has one. -/
def node? : Record → Option Json.Node
  | boolean b => some (.boolean b)
  | integer n => (Json.Number.ofInt? n).map .number
  | single x => some (.ofFloat x.widen)
  | double x => some (.ofFloat x)
  | char c => some (.string (String.singleton c))
  | text s => some (.string s)
  | bytes bs => some (.array (bs.map fun b => .number (.natural b.toUInt64)))
  | unit => some .null
  | absent => some .null
  | present content => content.node?
  | sequence items => (nodes? items).map .array
  | tuple items => (nodes? items).map .array
  | mapping entries => (entryNodes? entries).map .object
  | struct fields => (fieldNodes? fields).map .object
  | unitVariant name => some (.string name)
  | valueVariant name content => content.node?.map (tagged name)
  | tupleVariant name items => (nodes? items).map fun items => tagged name (.array items)
  | structVariant name fields =>
    (fieldNodes? fields).map fun fields => tagged name (.object fields)

def nodes? : List Record → Option (List Json.Node)
  | [] => some []
  | item :: rest => do return (← item.node?) :: (← nodes? rest)

def entryNodes? : List (Record × Record) → Option (List (String × Json.Node))
  | [] => some []
  | (key, item) :: rest => do
    return ((← key.name?), (← item.node?)) :: (← entryNodes? rest)

def fieldNodes? : List (String × Record) → Option (List (String × Json.Node))
  | [] => some []
  | (name, item) :: rest => do return (name, (← item.node?)) :: (← fieldNodes? rest)

end

/-- The value of a record, if it has one. -/
def value? (record : Record) : Option Value := record.node?.map Json.Node.value

/-- The value of a record, or that it has none. -/
def coerce (record : Record) : Except Error Value :=
  match record.value? with
  | some value => .ok value
  | none => .error .unserializable

end Record
end PathEdit
