/-! Reading the words of a command line as options and operands.

An option is written with one hyphen and a letter or two hyphens and a name. Letters may be
clustered; a value follows as the next word, behind an equals sign, or directly behind the letter.
A word that begins with a hyphen is never a value of the word before. Two hyphens end the
options. -/
namespace PathEdit.Command

/-- An option that a command understands. -/
structure OptionSpec where
  letter : Option Char
  name : String
  takesValue : Bool
  /-- Whether it may be given more than once. -/
  repeatable : Bool

/-- What was given, in order. -/
inductive Given where
  | flag (name : String)
  | option (name : String) (value : String)
  | operand (text : String)

namespace Given

/-- The name of an option that was given. -/
def name? : Given → Option String
  | flag name | option name _ => some name
  | operand _ => none

/-- Whether a word is an option or a cluster of options. -/
def isOption (word : List Char) : Bool :=
  match word with
  | '-' :: _ :: _ => true
  | _ => false

/-- What a word leaves: what it gives by itself, and an option that the next word completes. -/
structure Word where
  given : List Given
  pending : Option OptionSpec

/-- A word with two hyphens, behind them. -/
def long? (specs : List OptionSpec) (word : List Char) : Option Word := do
  let name := String.ofList (word.takeWhile (· != '='))
  let spec ← specs.find? (·.name == name)
  match spec.takesValue, word.dropWhile (· != '=') with
  | true, _ :: value => return ⟨[.option name (String.ofList value)], none⟩
  | true, [] => return ⟨[], some spec⟩
  | false, [] => return ⟨[.flag name], none⟩
  | false, _ => none

/-- A cluster of letters, behind its hyphen. -/
def cluster? (specs : List OptionSpec) : List Char → Option Word
  | [] => some ⟨[], none⟩
  | letter :: rest => do
    let spec ← specs.find? (·.letter == some letter)
    if spec.takesValue then
      match rest with
      | [] => return ⟨[], some spec⟩
      | '=' :: value => return ⟨[.option spec.name (String.ofList value)], none⟩
      | value => return ⟨[.option spec.name (String.ofList value)], none⟩
    else
      let word ← cluster? specs rest
      return { word with given := .flag spec.name :: word.given }

/-- All that words give, when the options among them are understood and complete. -/
def scan? (specs : List OptionSpec) (pending : Option OptionSpec) :
    List String → Option (List Given)
  | [] => if pending.isNone then some [] else none
  | word :: rest =>
    match pending with
    | some spec =>
      if isOption word.toList then none
      else (scan? specs none rest).map (.option spec.name word :: ·)
    | none =>
      if word = "--" then some (rest.map .operand)
      else if !isOption word.toList then (scan? specs none rest).map (.operand word :: ·)
      else do
        let found ←
          match word.toList with
          | '-' :: '-' :: long => long? specs long
          | word => cluster? specs (word.drop 1)
        return found.given ++ (← scan? specs found.pending rest)

/-- Whether only repeatable options are given more than once. -/
def admissible (specs : List OptionSpec) (given : List Given) : Bool :=
  specs.all fun spec =>
    spec.repeatable || (given.filter (·.name? == some spec.name)).length ≤ 1

/-- What words give, if the options among them are understood, complete and not repeated. -/
def read? (specs : List OptionSpec) (words : List String) : Option (List Given) :=
  (scan? specs none words).filter (admissible specs)

/-- Whether a flag is given. -/
def has (given : List Given) (name : String) : Bool := given.any (·.name? == some name)

/-- The values of an option. -/
def values (given : List Given) (name : String) : List String :=
  given.filterMap fun
    | .option n value => if n == name then some value else none
    | _ => none

def operands (given : List Given) : List String :=
  given.filterMap fun
    | .operand text => some text
    | _ => none

end Given
end PathEdit.Command
