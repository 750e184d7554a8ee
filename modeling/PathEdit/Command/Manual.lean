/-! The reference of the path syntax. -/
namespace PathEdit.Command

/-- The lines of the reference. -/
def manualLines : List String :=
  ["KNOA PATH SYNTAX",
   "",
   "A path addresses a location in a tree of objects and arrays.",
   "",
   "  firstname                 attribute of the root object",
   "  partner.age               nested attribute",
   "  siblings[1].age           element of an array, then an attribute",
   "  [0][2]                    element of an array inside an array root",
   "  siblings[*].age           every existing element of the array",
   "  annotations.\"a.b.c\"       quoted attribute, dots are part of the name",
   "",
   "Attribute names are made of letters, digits, '_', '-' and '/' and must not",
   "start with a digit. Use --attribute-format to accept a different pattern.",
   "",
   "WRITING",
   "",
   "  knoa run --set 'firstname=\"Jane\"' --set 'siblings[1].age=20'",
   "  => \x7b\"firstname\":\"Jane\",\"siblings\":[null,\x7b\"age\":20\x7d]\x7d",
   "",
   "Values are read as JSON; anything that isn't valid JSON is taken as a",
   "string. Indices past the end of an array grow it with nulls.",
   "",
   "REMOVING",
   "",
   "  echo '\x7b\"a\":[1,2,3]\x7d' | knoa run --unset 'a[1]'",
   "  => \x7b\"a\":[1,3]\x7d",
   "",
   "Removing an array element shifts the following ones left. Removing a",
   "missing key or index does nothing.",
   "",
   "STRICT MODE",
   "",
   "By default, malformed paths are skipped and reported on stderr. With",
   "--strict the first malformed path stops the command with an error."]

/-- The reference of the path syntax, as it is printed. -/
def manual : String := String.join (manualLines.map (· ++ "\n"))

end PathEdit.Command
