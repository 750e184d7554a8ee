import PathEdit.Regex.Property.Segment

/-! Sets of characters by the name of a Unicode property. Names of properties and of their values
are compared loosely. -/
namespace PathEdit.Regex

/-- Names are compared without case, blanks, hyphens and low lines, and without a leading `is`. -/
def looseName (name : List Char) : String :=
  let kept (cs : List Char) := (cs.filter fun c =>
    c != ' ' && c != '_' && c != '-' && c.toNat < 0x80).map Char.toLower
  match name.map Char.toLower with
  | 'i' :: 's' :: rest => if kept rest == ['c'] then "isc" else String.ofList (kept rest)
  | _ => String.ofList (kept name)

namespace CharSet

/-- The set of a property given by its name alone: a binary property, a general category or a
script. -/
def property? (name : List Char) : Option CharSet :=
  let loose := looseName name
  ((binary? loose).or (category? loose)).or (script? loose)

/-- The set of a property with a value. -/
def propertyValue? (name value : List Char) : Option CharSet :=
  let value := looseName value
  match looseName name with
  | "generalcategory" | "gc" => category? value
  | "script" | "sc" => script? value
  | "scriptextensions" | "scx" => scriptExtension? value
  | "age" => age? value
  | "graphemeclusterbreak" | "gcb" => clusterBreak? value
  | "wordbreak" | "wb" => wordBreak? value
  | "sentencebreak" | "sb" => sentenceBreak? value
  | _ => Option.none

end CharSet
end PathEdit.Regex
