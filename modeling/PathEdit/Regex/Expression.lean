import PathEdit.Regex.Pattern

/-! Regular expressions in normal form. The functions that build one flatten sequences and
alternatives, join neighbouring characters to one text, and take the beginning that all alternatives
share out of them. -/
namespace PathEdit.Regex

inductive Expression where
  | empty
  /-- A text of one character or more. -/
  | text (chars : List Char)
  /-- A set of no or several characters. -/
  | set (set : CharSet)
  | look (look : Look)
  /-- At least `low` times, and at most `high` times if it is given. -/
  | repeated (greedy : Bool) (low : Nat) (high : Option Nat) (body : Expression)
  | group (name : Option String) (body : Expression)
  | sequence (parts : List Expression)
  /-- Alternatives in order of preference. -/
  | choice (options : List Expression)

namespace Expression

mutual

/-- Whether two expressions are the same. A group is only the same as itself, and so never the same
as another one. -/
def same : Expression → Expression → Bool
  | empty, empty => true
  | text a, text b => a == b
  | set a, set b => a == b
  | look a, look b => a == b
  | repeated greedy low high a, repeated greedy' low' high' b =>
    greedy == greedy' && low == low' && high == high' && same a b
  | sequence as, sequence bs => sameAll as bs
  | choice as, choice bs => sameAll as bs
  | _, _ => false

def sameAll : List Expression → List Expression → Bool
  | [], [] => true
  | a :: as, b :: bs => same a b && sameAll as bs
  | _, _ => false

end

mutual

/-- The least number of characters that a run reads, if there is a run at all. -/
def least? : Expression → Option Nat
  | empty => some 0
  | text chars => some chars.length
  | set s => if s.isEmpty then none else some 1
  | look _ => some 0
  | repeated _ low _ body => body.least?.map (low * ·)
  | group _ body => body.least?
  | sequence parts => leastSum? parts
  | choice options => leastOf? options

def leastSum? : List Expression → Option Nat
  | [] => some 0
  | part :: rest => do return (← part.least?) + (← leastSum? rest)

/-- The least of all; there is none when one of the alternatives has none. -/
def leastOf? : List Expression → Option Nat
  | [] => none
  | [option] => option.least?
  | option :: rest => do return min (← option.least?) (← leastOf? rest)

end

mutual

/-- Whether no run ever reads a character. -/
def readsNothing : Expression → Bool
  | empty => true
  | text _ => false
  | set _ => false
  | look _ => true
  | repeated _ _ high body => high.isSome && body.readsNothing
  | group _ body => body.readsNothing
  | sequence parts => allReadNothing parts
  | choice options => allReadNothing options

def allReadNothing : List Expression → Bool
  | [] => true
  | part :: rest => part.readsNothing && allReadNothing rest

end

def ofSet (s : CharSet) : Expression :=
  match s.only? with
  | some c => text [c]
  | none => set s

/-- The parts that an expression has in a sequence. -/
def parts : Expression → List Expression
  | empty => []
  | sequence parts => parts
  | e => [e]

/-- Joins neighbouring texts. -/
def joinTexts : List Expression → List Expression
  | [] => []
  | text a :: rest =>
    match joinTexts rest with
    | text b :: rest => text (a ++ b) :: rest
    | rest => text a :: rest
  | e :: rest => e :: joinTexts rest

/-- Expressions one after the other. -/
def ofSequence (es : List Expression) : Expression :=
  match joinTexts (es.flatMap parts) with
  | [] => empty
  | [e] => e
  | es => sequence es

/-- The alternatives that an expression has in a choice. -/
def options : Expression → List Expression
  | choice options => options
  | e => [e]

/-- The set of an expression that reads exactly one character. -/
def set? : Expression → Option CharSet
  | text [c] => some (.single c)
  | set s => some s
  | _ => none

/-- Alternatives in order of preference; single characters are one set. -/
def ofOptions (es : List Expression) : Expression :=
  match es.flatMap options with
  | [e] => e
  | es =>
    match es.mapM set? with
    | some sets => ofSet (.unions sets)
    | none => choice es

/-- The parts that two sequences begin with alike. -/
def sharedStart : List Expression → List Expression → List Expression
  | a :: as, b :: bs => if a.same b then a :: sharedStart as bs else []
  | _, _ => []

/-- The parts that all of several sequences begin with. -/
def commonStart : List Expression → List Expression
  | [] => []
  | [sequence parts] => parts
  | sequence parts :: rest => sharedStart parts (commonStart rest)
  | _ => []

/-- A sequence without its first parts. -/
def dropParts (count : Nat) : Expression → Expression
  | sequence parts => ofSequence (parts.drop count)
  | e => e

/-- Alternatives in order of preference, behind what all of them begin with. -/
def ofChoice (es : List Expression) : Expression :=
  match ofOptions es with
  | choice options =>
    match commonStart options with
    | [] => choice options
    | start => ofSequence (start ++ [ofOptions (options.map (dropParts start.length))])
  | e => e

/-- A repetition. What reads nothing need not be repeated. -/
def ofRepetition (greedy : Bool) (low : Nat) (high : Option Nat) (body : Expression) :
    Expression :=
  let (low, high) :=
    if body.readsNothing then (min low 1, some (min (high.getD 1) 1)) else (low, high)
  if high = some 0 then empty
  else if low = 1 ∧ high = some 1 then body
  else repeated greedy low high body

/-- Whether a run may read nothing, or there is no run. -/
def isNullable (e : Expression) : Bool := e.least?.all (· == 0)

mutual

/-- The pattern of an expression. Groups without a name leave no trace. -/
def pattern : Expression → Pattern
  | empty => .empty
  | text chars => textPattern chars
  | set s => .char s
  | look l => .look l
  | repeated greedy low high body => .repeated greedy body.isNullable body.pattern low high
  | group name body => name.elim body.pattern (.group · body.pattern)
  | sequence parts => sequencePattern parts
  | choice options => choicePattern options

def sequencePattern : List Expression → Pattern
  | [] => .empty
  | [part] => part.pattern
  | part :: rest => .seq part.pattern (sequencePattern rest)

def choicePattern : List Expression → Pattern
  | [] => .char .none
  | [option] => option.pattern
  | option :: rest => .alt option.pattern (choicePattern rest)

def textPattern : List Char → Pattern
  | [] => .empty
  | [c] => .char (.single c)
  | c :: rest => .seq (.char (.single c)) (textPattern rest)

end

end Expression
end PathEdit.Regex
