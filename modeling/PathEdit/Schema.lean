import PathEdit.Json.Node

/-! Shapes of typed values, and decoding values into them. -/
namespace PathEdit

/-- A shape that a value may be decoded into. -/
inductive Schema where
  | any
  | integer (low high : Int)
  | float
  | boolean
  | string
  | optional (content : Schema)
  | sequence (item : Schema)
  | mapping (item : Schema)
  | tuple (items : List Schema)
  | struct (fields : List (String × Schema))

namespace Schema

/-- Applies a decoder to each element. -/
def each? (decode : Value → Option Value) : List Value → Option (List Value)
  | [] => some []
  | item :: rest => do return (← decode item) :: (← each? decode rest)

mutual

/-- The value in the given shape, if it has that shape. An integer serves as a float, but a float
never as an integer. -/
def decode? : Schema → Value → Option Value
  | any, value => some value
  | integer low high, value =>
    match value.view with
    | .integer n => if low ≤ n.toInt && n.toInt ≤ high then some value else none
    | _ => none
  | float, value => value.toFloat?.map .float
  | boolean, value => if value.kind = .boolean then some value else none
  | string, value => if value.kind = .string then some value else none
  | optional content, value => if value.isNull then some value else content.decode? value
  | sequence item, value => (value.items?.bind (each? item.decode?)).map .array
  | mapping item, value => do
    let fields ← value.fields?
    let decoded ← each? item.decode? fields.values
    return .object (.ofList (fields.keys.zip decoded))
  | tuple items, value => (value.items?.bind (decodeItems? items)).map .array
  | struct fields, value =>
    match value.view with
    | .object found =>
      (decodeFields? fields found).map fun decoded => .object (.ofList decoded)
    | .array items => do
      let decoded ← decodeStruct? fields items
      return .object (.ofList decoded)
    | _ => none

/-- As many elements as shapes, each in its shape. -/
def decodeItems? : List Schema → List Value → Option (List Value)
  | [], [] => some []
  | schema :: schemas, item :: items => do
    return (← schema.decode? item) :: (← decodeItems? schemas items)
  | _, _ => none

/-- The named fields of an object; others are passed over. -/
def decodeFields? : List (String × Schema) → Fields Value → Option (List (String × Value))
  | [], _ => some []
  | (name, schema) :: rest, found => do
    return (name, ← schema.decode? (← found.get? name)) :: (← decodeFields? rest found)

/-- The fields in order. -/
def decodeStruct? : List (String × Schema) → List Value → Option (List (String × Value))
  | [], [] => some []
  | (name, schema) :: rest, item :: items => do
    return (name, ← schema.decode? item) :: (← decodeStruct? rest items)
  | _, _ => none

end

end Schema

/-- The value decoded into a shape from its document. -/
def Value.decode? (value : Value) (schema : Schema) : Option Value :=
  schema.decode? value.node.value

end PathEdit
