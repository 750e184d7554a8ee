import PathEdit.Regex.Look

/-! What runs do at one place of a text, in order of preference.

A run that comes to a part of a pattern may read on inside it, or pass through it without reading.
A passage lists these choices for one part and one place, whatever lies behind the part, and
passages are composed as the parts are. -/
namespace PathEdit.Regex

/-- A boundary of a named group. -/
structure Boundary where
  name : String
  opening : Bool
  place : Nat
deriving DecidableEq

/-- The boundaries that a run passes, in order. -/
abbrev Trace := List Boundary

/-- What the preferred run passes, if there is a run. -/
abbrev Answer := Option Trace

/-- The choices of a run that comes to a part of a pattern. -/
structure Passage where
  /-- The run that is preferred to passing through. -/
  sooner : Answer
  /-- The boundaries between here and there, if the part can be passed through. -/
  through : Option Trace
  /-- The run that is left when nothing behind the part succeeds. -/
  later : Answer

namespace Passage

/-- The preferred run, where `rest` is the preferred run behind the part. -/
def complete (p : Passage) (rest : Answer) : Answer :=
  p.sooner.or ((p.through.bind fun t => rest.map (t ++ ·)).or p.later)

/-- The preferred run that stays in the part. -/
def inside (p : Passage) : Answer := p.sooner.or p.later

/-- A part that is passed through. -/
def skip : Passage := ⟨none, some [], none⟩

/-- A part that no run leaves at this place. -/
def stay (answer : Answer) : Passage := ⟨answer, none, none⟩

/-- A part that no run passes. -/
def closed : Passage := stay none

/-- A boundary of a group. -/
def boundary (b : Boundary) : Passage := ⟨none, some [b], none⟩

/-- One part behind another. -/
def andThen (p q : Passage) : Passage :=
  match p.through with
  | none => p
  | some t =>
    { sooner := p.sooner.or (q.sooner.map (t ++ ·))
      through := q.through.map (t ++ ·)
      later := (q.later.map (t ++ ·)).or p.later }

/-- Two parts in front of the same rest, the first one preferred. -/
def orElse (p q : Passage) : Passage :=
  match p.through with
  | none => ⟨p.inside.or q.sooner, q.through, q.later⟩
  | some t => ⟨p.sooner, some t, p.later.or q.inside⟩

/-- Two parts in front of the same rest, `more` preferred when `greedy`. -/
def prefer (greedy : Bool) (more fewer : Passage) : Passage :=
  if greedy then more.orElse fewer else fewer.orElse more

theorem complete_none (p : Passage) : p.complete none = p.inside := by
  cases through : p.through <;> simp [complete, inside, through]

theorem complete_skip (rest : Answer) : skip.complete rest = rest := by
  simp [complete, skip]

theorem complete_stay (answer rest : Answer) : (stay answer).complete rest = answer := by
  simp [complete, stay]

theorem complete_andThen (p q : Passage) (rest : Answer) :
    (p.andThen q).complete rest = p.complete (q.complete rest) := by
  cases through : p.through with
  | none => simp [complete, andThen, through]
  | some t =>
    cases inner : q.through <;>
      simp [complete, andThen, through, inner, Option.map_or, Option.or_assoc, Function.comp_def]

theorem complete_orElse (p q : Passage) (rest : Answer) :
    (p.orElse q).complete rest = (p.complete rest).or (q.complete rest) := by
  cases through : p.through with
  | none => simp [complete, orElse, inside, through, Option.or_assoc]
  | some t =>
    cases rest with
    | none => simp [complete, orElse, inside, through, Option.or_assoc]
    | some trace => cases p.sooner <;> simp [complete, orElse, through]

end Passage
end PathEdit.Regex
