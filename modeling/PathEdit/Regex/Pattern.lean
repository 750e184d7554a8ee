import PathEdit.Regex.Look

/-! Patterns of regular expressions. -/
namespace PathEdit.Regex

/-- A regular expression: alternatives and repetitions in order of preference. -/
inductive Pattern where
  | empty
  | char (set : CharSet)
  | look (look : Look)
  | seq (first second : Pattern)
  | alt (preferred other : Pattern)
  /-- One or more times, with a preference for more when `greedy` and for fewer otherwise. -/
  | plus (greedy : Bool) (body : Pattern)
  /-- Any number of times, for a body that always reads something. -/
  | star (greedy : Bool) (body : Pattern)
  | group (name : String) (body : Pattern)
deriving DecidableEq

namespace Pattern

/-- The pattern or nothing, the pattern preferred when `greedy`. -/
def optional (greedy : Bool) (a : Pattern) : Pattern :=
  if greedy then alt a empty else alt empty a

/-- Any number of times. A body that may read nothing is entered at least once or not at all. -/
def anyTimes (greedy nullable : Bool) (a : Pattern) : Pattern :=
  if nullable then optional greedy (plus greedy a) else star greedy a

/-- The pattern a fixed number of times, as a balanced tree; the fuel is the number itself. -/
def times (a : Pattern) : Nat → Nat → Pattern
  | 0, _ => empty
  | fuel + 1, count =>
    if count = 0 then empty
    else if count = 1 then a
    else seq (times a fuel (count / 2)) (times a fuel (count - count / 2))

/-- Up to a number of times, one inside the other. -/
def upTo (greedy : Bool) (a : Pattern) : Nat → Pattern
  | 0 => empty
  | count + 1 => optional greedy (seq a (upTo greedy a count))

/-- At least `low` times, and at most `high` times if it is given. -/
def repeated (greedy nullable : Bool) (a : Pattern) (low : Nat) : Option Nat → Pattern
  | some high =>
    if high ≤ low then times a low low else seq (times a low low) (upTo greedy a (high - low))
  | none =>
    if low = 0 then anyTimes greedy nullable a
    else seq (times a (low - 1) (low - 1)) (plus greedy a)

end Pattern
end PathEdit.Regex
