import PathEdit.Regex.Expression
import PathEdit.Regex.Reader.Class

/-! Reading the text of a regular expression (`Expression.read?`). There is no expression for a
malformed text, or for one that is nested too deep. -/
namespace PathEdit.Regex

/-- An expression as it was read, with the depth to which sequences, alternatives, repetitions,
groups and classes are nested in it. -/
structure Term where
  expression : Expression
  depth : Nat

/-- The greatest depth of an expression. -/
def maxDepth : Nat := 250

namespace Term

/-- The depth of terms side by side, which counts only when there are several. -/
def depthOf (depths : List Nat) : Nat :=
  depths.foldl max 0 + (if depths.length < 2 then 0 else 1)

def leaf (expression : Expression) : Term := ⟨expression, 0⟩

def group (name : Option String) (content : Term) : Term :=
  ⟨.group name content.expression, content.depth + 1⟩

/-- Parentheses that only hold together. -/
def cluster (content : Term) : Term := { content with depth := content.depth + 1 }

def repetition (greedy : Bool) (low : Nat) (high : Option Nat) (body : Term) : Term :=
  ⟨.ofRepetition greedy low high body.expression, body.depth + 1⟩

/-- Alternatives, which a single one is not. -/
def choice : List Term → Term
  | [option] => option
  | options => ⟨.ofChoice (options.map expression), depthOf (options.map depth)⟩

end Term

/-- A part of a sequence. Setting flags matches nothing and cannot be repeated. -/
inductive Part where
  | term (term : Term)
  | setting

namespace Part

def expression : Part → Expression
  | term t => t.expression
  | setting => .empty

def depth : Part → Nat
  | term t => t.depth
  | setting => 0

/-- Parts one after the other. -/
def sequence (parts : List Part) : Term :=
  ⟨.ofSequence (parts.map expression), Term.depthOf (parts.map depth)⟩

end Part

/-- The alternatives read so far between two parentheses, the last ones first. -/
structure Alternatives where
  finished : List Term
  parts : List Part
  flags : Flags
  /-- The names of all groups so far, each of which must differ. -/
  names : List String

namespace Alternatives

def begin (flags : Flags) (names : List String) : Alternatives := ⟨[], [], flags, names⟩

def current (b : Alternatives) : Term := Part.sequence b.parts.reverse

def term (b : Alternatives) : Term := .choice (b.current :: b.finished).reverse

def next (b : Alternatives) : Alternatives :=
  { b with finished := b.current :: b.finished, parts := [] }

def add (b : Alternatives) (t : Term) : Alternatives := { b with parts := .term t :: b.parts }

/-- Repeats the last part, which must be one that can be repeated. -/
def repeatLast? (b : Alternatives) (greedy : Bool) (low : Nat) (high : Option Nat) :
    Option Alternatives :=
  match b.parts with
  | .term t :: rest => some { b with parts := .term (t.repetition greedy low high) :: rest }
  | _ => none

end Alternatives

namespace Reader

/-- What an opening parenthesis begins. -/
inductive Opening where
  | flags (flags : Flags)
  | cluster (flags : Flags)
  | group (name : Option String)

/-- Letters of flags up to a colon or a closing parenthesis. No flag may be named twice, and the
one hyphen, behind which flags are switched off, not be the last. -/
def flagLetters (on : Bool) (seen : List Char) (flags : Flags) :
    List Char → Option (Flags × List Char × List Char)
  | [] => none
  | c :: rest =>
    if c == ':' || c == ')' then
      if seen.head? == some '-' then none else some (flags, seen, c :: rest)
    else if seen.contains c then none
    else if c == '-' then flagLetters false (c :: seen) flags rest
    else do
      let flags ← flags.switch? c on
      flagLetters on (c :: seen) flags rest

/-- The name of a group up to its closing angle bracket. -/
def groupName (text : List Char) : Option (String × List Char) :=
  let name := text.takeWhile (· != '>')
  let valid :=
    match name with
    | [] => false
    | first :: rest =>
      (first == '_' || Unicode.isAlphabetic first) && rest.all fun c =>
        c == '_' || c == '.' || c == '[' || c == ']' || Unicode.isAlphanumeric c
  match text.dropWhile (· != '>') with
  | _ :: rest => if valid then some (String.ofList name, rest) else none
  | [] => none

/-- What a parenthesis begins, read behind it. Conditions on the surrounding text have no
expression. -/
def opening (flags : Flags) (text : List Char) : Option (Opening × List Char) :=
  match text with
  | '?' :: '=' :: _ | '?' :: '!' :: _ | '?' :: '<' :: '=' :: _ | '?' :: '<' :: '!' :: _ => none
  | '?' :: 'P' :: '<' :: rest | '?' :: '<' :: rest => do
    let (name, rest) ← groupName rest
    return (.group (some name), rest)
  | '?' :: rest => do
    let (changed, seen, rest) ← flagLetters true [] flags rest
    match rest with
    | ')' :: rest => if seen.isEmpty then none else some (.flags changed, rest)
    | _ :: rest => some (.cluster changed, rest)
    | [] => none
  | _ => some (.group none, text)

/-- A mark behind a repetition that turns its preference around. -/
def preference (flags : Flags) (text : List Char) : Bool × List Char :=
  match text with
  | '?' :: rest => (flags.swapGreed, rest)
  | _ => (!flags.swapGreed, text)

/-- Blanks in front of a number. -/
def dropSpace (text : List Char) : List Char := text.dropWhile Unicode.isWhiteSpace

/-- Decimal digits with blanks around them. -/
def decimalDigits (flags : Flags) : Nat → List Char → List Char × List Char
  | 0, text => ([], text)
  | fuel + 1, text =>
    match text with
    | c :: rest =>
      if c.isDigit then
        let (digits, rest) := decimalDigits flags fuel (flags.skip rest)
        (c :: digits, rest)
      else ([], text)
    | [] => ([], [])

/-- A count of at most 32 bits. -/
def count (flags : Flags) (text : List Char) : Option (Nat × List Char) :=
  let text := dropSpace text
  let (digits, rest) := decimalDigits flags text.length text
  let value := digits.foldl (fun value c => 10 * value + (c.toNat - '0'.toNat)) 0
  if digits.isEmpty || UInt32.size ≤ value then none else some (value, flags.skip (dropSpace rest))

/-- The bounds of a counted repetition, behind its opening brace. -/
def bounds (flags : Flags) (text : List Char) : Option ((Nat × Option Nat) × List Char) := do
  let (low, rest) ← count flags (flags.skip text)
  match rest with
  | '\x7d' :: rest => return ((low, some low), rest)
  | ',' :: rest =>
    match flags.skip rest with
    | '\x7d' :: rest => return ((low, none), rest)
    | rest =>
      let (high, rest) ← count flags rest
      match rest with
      | '\x7d' :: rest => if low ≤ high then some ((low, some high), rest) else none
      | _ => none
  | _ => none

/-- A single character, point, anchor or escape. -/
def primitive (flags : Flags) (text : List Char) : Option (Expression × List Char) :=
  match text with
  | [] => none
  | '.' :: rest => flags.dot?.map fun set => (.ofSet set, rest)
  | '^' :: rest => some (.look flags.caret, rest)
  | '$' :: rest => some (.look flags.dollar, rest)
  | '\\' :: rest => do
    let (atom, rest) ← escape flags rest
    match atom with
    | .literal c => (flags.literal? c).map fun set => (.ofSet set, rest)
    | .set set => some (.ofSet set, rest)
    | .look l => some (.look l, rest)
  | c :: rest => (flags.literal? c).map fun set => (.ofSet set, rest)

/-- The alternatives up to a closing parenthesis or the end, behind those read so far. The fuel is
spent at one per character at least. -/
def alternatives : Nat → Alternatives → List Char → Option (Alternatives × List Char)
  | 0, _, _ => none
  | fuel + 1, b, text =>
    let flags := b.flags
    let text := flags.skip text
    let enclosed (enclose : Term → Term) (changed : Flags) (names : List String)
        (rest : List Char) : Option (Alternatives × List Char) := do
      let (inner, rest) ← alternatives fuel (.begin changed names) rest
      match rest with
      | ')' :: rest =>
        alternatives fuel { b.add (enclose inner.term) with names := inner.names } rest
      | _ => none
    let repetition (low : Nat) (high : Option Nat) (rest : List Char) :
        Option (Alternatives × List Char) := do
      let (greedy, rest) := preference flags rest
      alternatives fuel (← b.repeatLast? greedy low high) rest
    match text with
    | [] => some (b, [])
    | ')' :: _ => some (b, text)
    | '|' :: rest => alternatives fuel b.next rest
    | '(' :: rest => do
      match ← opening flags (flags.skip rest) with
      | (.flags changed, rest) =>
        alternatives fuel { b with flags := changed, parts := .setting :: b.parts } rest
      | (.cluster changed, rest) => enclosed .cluster changed b.names rest
      | (.group name, rest) =>
        if name.any b.names.contains then none
        else enclosed (.group name) flags (name.toList ++ b.names) rest
    | '[' :: rest => do
      let (item, rest) ← bracketed flags rest
      alternatives fuel (b.add ⟨.ofSet item.set, item.depth⟩) rest
    | '?' :: rest => repetition 0 (some 1) rest
    | '*' :: rest => repetition 0 none rest
    | '+' :: rest => repetition 1 none rest
    | '\x7b' :: rest => do
      let ((low, high), rest) ← bounds flags rest
      repetition low high (flags.skip rest)
    | _ => do
      let (e, rest) ← primitive flags text
      alternatives fuel (b.add (.leaf e)) rest

end Reader

/-- The expression of a text, if the text is one. -/
def Expression.read? (text : List Char) : Option Expression := do
  let (b, rest) ← Reader.alternatives (text.length + 1) (.begin .initial []) text
  if rest.isEmpty && b.term.depth ≤ maxDepth then some b.term.expression else none

end PathEdit.Regex
