import PathEdit.Error

/-! What can go wrong in a command. -/
namespace PathEdit.Command

inductive CommandError where
  | editing (error : Error)
  /-- The input is no JSON text. -/
  | invalidJson
  /-- The text of an assignment has no equals sign. -/
  | invalidAssignment (text : String)
deriving DecidableEq

def CommandError.message : CommandError → String
  | editing error => error.message
  | invalidJson => "Invalid JSON: not a JSON text"
  | invalidAssignment text => s!"Invalid assignment '{text}': expected PATH=VALUE"

end PathEdit.Command
