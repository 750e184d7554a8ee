import PathEdit.Command.Arguments
import PathEdit.Command.Check
import PathEdit.Command.Manual
import PathEdit.Command.Run

/-! The command line: what is asked for, and what it prints. -/
namespace PathEdit.Command

/-- What a command leaves behind. -/
structure Outcome where
  code : Nat
  stdout : String
  stderr : String

/-- What a command line asks for. -/
inductive Request where
  | version
  | manual
  | check (options : Options) (paths : List String)
  /-- The input is still to be taken from elsewhere when none is given. -/
  | run (options : RunOptions)

namespace Request

def flag (letter : Option Char) (name : String) : OptionSpec := ⟨letter, name, false, false⟩

def single (letter : Option Char) (name : String) : OptionSpec := ⟨letter, name, true, false⟩

def repeated (letter : Option Char) (name : String) : OptionSpec := ⟨letter, name, true, true⟩

def verbose : OptionSpec := flag 'v' "verbose"

def runSpecs : List OptionSpec :=
  [verbose, single 'i' "input", flag none "array", repeated 's' "set", repeated 'u' "unset",
   flag none "strict", single none "attribute-format", single 'f' "format", flag 'p' "pretty",
   single none "indent", single none "prefix"]

def checkSpecs : List OptionSpec :=
  [verbose, flag none "strict", single none "attribute-format"]

/-- The options that commands share. -/
def options (given : List Given) : Options :=
  { strict := Given.has given "strict"
    format := (Given.values given "attribute-format").headD standardFormat }

/-- The form of the document: JSON is compact unless it is to be pretty. -/
def output? (given : List Given) : Option Output :=
  let layout : Json.Layout :=
    if Given.has given "pretty" then
      { margin := ((Given.values given "prefix").headD "").toList
        indent := ((Given.values given "indent").headD "  ").toList }
    else .compact
  match (Given.values given "format").headD "json" with
  | "json" => some (.json layout)
  | "yaml" => some .yaml
  | _ => none

def run? (words : List String) : Option Request := do
  let given ← Given.read? runSpecs words
  let output ← output? given
  if (Given.operands given).isEmpty then
    return .run
      { input := (Given.values given "input").head?
        array := Given.has given "array"
        options := options given
        sets := Given.values given "set"
        unsets := Given.values given "unset"
        output }
  else none

def check? (words : List String) : Option Request := do
  let given ← Given.read? checkSpecs words
  let paths := Given.operands given
  if paths.isEmpty then none else return .check (options given) paths

def manual? (words : List String) : Option Request := do
  let given ← Given.read? [verbose] words
  if (Given.operands given).isEmpty then return .manual else none

/-- What a cluster of letters in front of the command asks for. -/
inductive Leading where
  | version
  | verbose (seen : Bool)

def leading? (seen : Bool) : List Char → Option Leading
  | [] => some (.verbose seen)
  | 'v' :: rest => if seen then none else leading? true rest
  | 'V' :: _ => some .version
  | _ => none

/-- The request of a command line, if it is one. -/
def parse? (seen : Bool) : List String → Option Request
  | [] => none
  | "run" :: words => run? words
  | "check" :: words => check? words
  | "syntax" :: words => manual? words
  | "--version" :: _ => some .version
  | "--verbose" :: words => if seen then none else parse? true words
  | word :: words =>
    match word.toList with
    | '-' :: c :: rest =>
      match leading? seen (c :: rest) with
      | some .version => some .version
      | some (.verbose seen) => parse? seen words
      | none => none
    | _ => none

/-- Whether the request is completed by the standard input. -/
def readsInput : Request → Bool
  | run options => options.input.isNone
  | _ => false

end Request

/-- The text without blanks at its end. -/
def trimEnd (text : List Char) : List Char :=
  (text.reverse.dropWhile Unicode.isWhiteSpace).reverse

/-- A text of blanks only counts as no input. -/
def inputOf (text : String) : Option String :=
  if text.toList.all Unicode.isWhiteSpace then none else some text

namespace Outcome

/-- A command line that was not understood. -/
def usage : Outcome := ⟨2, "", ""⟩

def failure (message : String) : Outcome := ⟨1, "", message ++ "\n"⟩

/-- The rendered document with exactly one line break at its end, and what was passed over. -/
def ofRun : Except CommandError RunOutput → Outcome
  | .error e => failure e.message
  | .ok output =>
    { code := 0
      stdout := String.ofList (trimEnd output.text.toList ++ ['\n'])
      stderr := String.join (output.skipped.map fun e => "skipped: " ++ e.message ++ "\n") }

/-- One line of a check. -/
def checkLine (checked : CheckedPath) : String :=
  match checked.result with
  | .ok canonical => s!"ok       {checked.path}  =>  {canonical}\n"
  | .error e => s!"invalid  {checked.path}  ({e.message})\n"

/-- A line for each path; an invalid one shows in the code. -/
def ofCheck : Except Error (List CheckedPath) → Outcome
  | .error e => failure e.message
  | .ok checked =>
    { code := if checked.all fun c => c.result.isOk then 0 else 2
      stdout := String.join (checked.map checkLine)
      stderr := "" }

end Outcome

/-- What a request does; the text is that of the standard input. -/
def Request.execute (input : String) : Request → Outcome
  | version => ⟨0, "knoa 0.2.0\n", ""⟩
  | manual => ⟨0, Command.manual, ""⟩
  | check options paths => .ofCheck (executeCheck options paths)
  | run options =>
    .ofRun { options with input := options.input.or (inputOf input) }.execute

/-- What a command line does. -/
def invoke (words : List String) (input : String) : Outcome :=
  match Request.parse? false words with
  | none => .usage
  | some request => request.execute input

end PathEdit.Command
