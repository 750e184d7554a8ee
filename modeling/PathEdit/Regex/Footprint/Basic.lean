import PathEdit.Regex.Expression
import PathEdit.Regex.Footprint.Characters
import PathEdit.Regex.Footprint.Words
import PathEdit.Regex.Reader.Basic

/-! The size of the automaton of an expression, which reads the bytes of a text in UTF-8. An
expression is admitted when neither the automaton that reads forwards nor the one that reads
backwards is too large. The pattern of a text is that of an admitted expression
(`Pattern.read?`). -/
namespace PathEdit.Regex

open Footprint

namespace Expression

def isText : Expression → Bool
  | text _ => true
  | _ => false

/-- The bytes of a text in the order in which they are read. -/
def textBytes (direction : Direction) : Expression → List Nat
  | text chars =>
    let bytes := chars.flatMap fun c => Utf8.bytes c.toNat
    if direction = .forwards then bytes else bytes.reverse
  | _ => []

mutual

/-- Draws the part of an expression. -/
def draw (direction : Direction) : Expression → Draft → Draft
  | empty, draft => draft.add 1
  | text chars, draft => draft.add (chars.flatMap fun c => Utf8.bytes c.toNat).length
  | set s, draft => drawSet direction s draft
  | look _, draft => draft.add 1
  | repeated _ low high body, draft =>
    let exactly (count : Nat) (draft : Draft) : Draft :=
      if count = 0 then draft.add 1 else draft.times (body.draw direction) count
    match high with
    | some high =>
      if low = 0 ∧ high = 1 then (body.draw direction (draft.addFork 2)).add 1
      else if high ≤ low then exactly low draft
      else ((exactly low draft).add 1).times (fun draft => body.draw direction (draft.addFork 2))
        (high - low)
    | none =>
      if low = 0 then
        if body.isNullable then ((body.draw direction draft).addFork 2).addFork 2 |>.add 1
        else body.draw direction (draft.addFork 2)
      else (draft.times (body.draw direction) low).addFork 2
  | group _ body, draft =>
    match direction with
    | .forwards => (body.draw direction (draft.add 1)).add 1
    | .backwards => body.draw direction draft
  | sequence parts, draft =>
    match direction with
    | .forwards => drawParts parts draft
    | .backwards => drawPartsBackwards parts draft
  | choice options, draft =>
    if options.all isText then drawWords (options.map (textBytes direction)) draft
    else
      match options with
      | first :: second :: rest =>
        let draft := second.draw direction (first.draw direction draft)
        drawOptions direction rest ((draft.addFork 2).add 1)
      | options => drawOptions direction options draft

/-- Draws parts one after the other. -/
def drawParts : List Expression → Draft → Draft
  | [], draft => draft
  | part :: rest, draft => drawParts rest (part.draw .forwards draft)

/-- Draws parts from the last one to the first one. -/
def drawPartsBackwards : List Expression → Draft → Draft
  | [], draft => draft
  | part :: rest, draft => part.draw .backwards (drawPartsBackwards rest draft)

/-- Draws further alternatives, to each of which the fork gets a way. -/
def drawOptions (direction : Direction) : List Expression → Draft → Draft
  | [], draft => draft
  | option :: rest, draft =>
    let draft := option.draw direction draft
    drawOptions direction rest { draft with extra := draft.extra + 4 }

end

/-- The whole automaton: the part of the expression between its beginning and its end. -/
def automaton (direction : Direction) (e : Expression) : Draft :=
  ((group none e).draw direction (Draft.empty.add 1)).add 1

/-- Whether the automata of an expression are small enough. -/
def isAdmitted (e : Expression) : Bool :=
  !(e.automaton .forwards).isOver && !(e.automaton .backwards).isOver

end Expression

/-- The pattern of a regular expression, if the text is one, and not too large a one. -/
def Pattern.read? (text : List Char) : Option Pattern :=
  ((Expression.read? text).filter Expression.isAdmitted).map Expression.pattern

end PathEdit.Regex
