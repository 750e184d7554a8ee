/-! Sets of characters as lists of spans of code points. -/
namespace PathEdit.Unicode

/-- The code points from `first` to `last`, each or every second one. -/
structure Span where
  first : Nat
  last : Nat
  step : Nat

namespace Span

/-- Whether a code point is in one of the spans; the spans ascend, so that the search stops at the
first one beyond it. -/
def holds (code : Nat) : List Span → Bool
  | [] => false
  | span :: rest =>
    if code < span.first then false
    else if code ≤ span.last && (code - span.first) % span.step == 0 then true
    else holds code rest

/-- The first and the last code points of the ranges that a span is made of. -/
def bounds (span : Span) : List (Nat × Nat) :=
  if span.step = 1 then [(span.first, span.last)]
  else (List.range ((span.last - span.first) / span.step + 1)).map fun i =>
    (span.first + span.step * i, span.first + span.step * i)

def listed (spans : List Span) (c : Char) : Bool := holds c.toNat spans

end Span
end PathEdit.Unicode
