import PathEdit.Regex.Passage
import PathEdit.Regex.Pattern

/-! Matching in one pass over a text from its end to its beginning.

A run of a pattern never takes up the same turn of a repetition twice at one place; of all such
runs the first one in order of preference is the match. A pattern is armed for a place when each of
its characters carries how the preferred run goes on that begins by reading there, and each of its
other parts carries its passage. The pattern can then be armed for the place before. -/
namespace PathEdit.Regex

/-- A pattern with all questions answered about runs from one place of a text. -/
inductive Armed where
  | empty
  | char (set : CharSet) (ahead : Answer)
  | look (look : Look) (passage : Passage)
  | seq (first second : Armed) (passage : Passage)
  | alt (preferred other : Armed) (passage : Passage)
  | plus (greedy : Bool) (body : Armed) (passage : Passage)
  | star (greedy : Bool) (body : Armed) (passage : Passage)
  | group (name : String) (body : Armed) (passage : Passage)

namespace Armed

/-- The choices of a run that comes to the pattern at the place. -/
def passage : Armed → Passage
  | empty => .skip
  | char _ ahead => .stay ahead
  | look _ p | seq _ _ p | alt _ _ p | plus _ _ p | star _ _ p | group _ _ p => p

/-- Armed for no place. -/
def ofPattern : Pattern → Armed
  | .empty => empty
  | .char set => char set none
  | .look l => look l .closed
  | .seq a b => seq (ofPattern a) (ofPattern b) .closed
  | .alt a b => alt (ofPattern a) (ofPattern b) .closed
  | .plus greedy a => plus greedy (ofPattern a) .closed
  | .star greedy a => star greedy (ofPattern a) .closed
  | .group name a => group name (ofPattern a) .closed

/-- The pattern armed for the place `here`, where it is armed for the place behind.

A run that leaves the pattern at the place behind goes on as `onward` says, whose rest is a run
that enters the pattern there once more and stays inside. What lies behind such a run is not entered
again, so that a repetition is taken up at most once. -/
def advance (here : Here) : Armed → Passage → Armed
  | empty, _ => empty
  | char set ahead, onward =>
    char set (if here.after.any set.contains then onward.complete ahead else none)
  | look l _, _ => look l (if l.holds here then .skip else .closed)
  | seq a b _, onward =>
    let a' := a.advance here (b.passage.andThen onward)
    let b' := b.advance here (onward.andThen a.passage)
    seq a' b' (a'.passage.andThen b'.passage)
  | alt a b _, onward =>
    let a' := a.advance here (onward.andThen (.orElse .skip (.stay b.passage.inside)))
    let b' := b.advance here (onward.andThen (.orElse (.stay a.passage.inside) .skip))
    alt a' b' (a'.passage.orElse b'.passage)
  | plus greedy a _, onward =>
    let a' := a.advance here (.prefer greedy .skip onward)
    plus greedy a' a'.passage
  | star greedy a _, onward =>
    let a' := a.advance here (.prefer greedy .skip (.stay onward.inside))
    star greedy a' (.prefer greedy (.stay a'.passage.inside) .skip)
  | group name a _, onward =>
    let opening := fun place => Passage.boundary ⟨name, true, place⟩
    let closing := fun place => Passage.boundary ⟨name, false, place⟩
    let behind := here.place + 1
    let a' := a.advance here ((closing behind).andThen (onward.andThen (opening behind)))
    group name a' ((opening here.place).andThen (a'.passage.andThen (closing here.place)))

end Armed

namespace Pattern

/-- What the scan of the text behind a place leaves: the pattern armed for the place, and the match
that was found. -/
structure Scan where
  armed : Armed
  found : Answer

/-- The run that ends at once. -/
def done : Answer := some []

/-- Scans a text from its end down to a place; a match that begins further left is preferred. -/
def scan (pattern : Pattern) (before : Option Char) (place : Nat) : List Char → Scan
  | [] =>
    let armed := (Armed.ofPattern pattern).advance ⟨place, before, none⟩ .closed
    ⟨armed, armed.passage.complete done⟩
  | c :: rest =>
    let behind := scan pattern (some c) (place + 1) rest
    let armed := behind.armed.advance ⟨place, before, some c⟩ (.stay done)
    ⟨armed, (armed.passage.complete done).or behind.found⟩

/-- The leftmost match anywhere in a text, of several from there the preferred one. -/
def match? (pattern : Pattern) (text : List Char) : Option Trace :=
  (pattern.scan none 0 text).found

def occursIn (pattern : Pattern) (text : List Char) : Bool := (pattern.match? text).isSome

end Pattern

/-- The last place of a boundary of a group. -/
def Trace.last? (trace : Trace) (name : String) (opening : Bool) : Option Nat :=
  (trace.reverse.find? fun b => b.name == name && b.opening == opening).map Boundary.place

/-- What a group holds at the end of a match: the text that it matched last. -/
def Trace.capture? (trace : Trace) (name : String) (text : List Char) : Option (List Char) := do
  let first ← trace.last? name true
  let last ← trace.last? name false
  return (text.drop first).take (last - first)

end PathEdit.Regex
