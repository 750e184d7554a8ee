import PathEdit.Binary64.Basic

/-! The shortest decimal of a finite double: the fewest digits that read back to the same double,
and of those the decimal nearest to its exact value. -/
namespace PathEdit.Binary64

/-- A positive decimal `digits · 10 ^ power`. -/
structure Decimal where
  digits : Nat
  power : Int
deriving DecidableEq

/-- Where a decimal exactly between two candidates goes. -/
inductive Tie
  | up
  | even
deriving DecidableEq

/-- An exact positive rational and half the distances to the two neighbouring doubles, all over
one denominator: the reals strictly between `value - below` and `value + above` read back as
this double, and the ends too when `closed`. -/
structure Rounding where
  value : Nat
  below : Nat
  above : Nat
  den : Nat
  closed : Bool

namespace Rounding

/-- The surroundings of `mantissa · 2 ^ exponent`. The neighbour below is nearer when the mantissa
is the least one of its exponent. -/
def ofParts (mantissa : Nat) (exponent : Int) (isLeast : Bool) : Rounding :=
  let up := Nat.pow 2 exponent.toNat
  { value := 4 * mantissa * up
    below := if isLeast then up else 2 * up
    above := 2 * up
    den := 4 * Nat.pow 2 (-exponent).toNat
    closed := mantissa % 2 = 0 }

/-- Whether `candidate · 10 ^ power` reads back. -/
def reads (r : Rounding) (candidate : Nat) (power : Int) : Bool :=
  let grid := if 0 ≤ power then candidate * Nat.pow 10 power.toNat * r.den else candidate * r.den
  let unit := if 0 ≤ power then 1 else Nat.pow 10 (-power).toNat
  if r.closed then
    decide ((r.value - r.below) * unit ≤ grid) && decide (grid ≤ (r.value + r.above) * unit)
  else
    decide ((r.value - r.below) * unit < grid) && decide (grid < (r.value + r.above) * unit)

/-- The largest multiple of `10 ^ power` up to the value, and twice the rest compared with one
step of the grid. -/
def grid (r : Rounding) (power : Int) : Nat × Ordering :=
  let num := if 0 ≤ power then r.value else r.value * Nat.pow 10 (-power).toNat
  let den := if 0 ≤ power then r.den * Nat.pow 10 power.toNat else r.den
  (num / den, compare (2 * (num % den)) den)

/-- The candidate on one grid, if any neighbour of the value on it reads back. -/
def onGrid? (r : Rounding) (tie : Tie) (power : Int) : Option Decimal :=
  let (low, rest) := r.grid power
  let high := low + 1
  let nearest :=
    match rest, tie with
    | .lt, _ => low
    | .gt, _ => high
    | .eq, .up => high
    | .eq, .even => low + low % 2
  let other := if nearest = low then high else low
  if r.reads nearest power then some ⟨nearest, power⟩
  else if r.reads other power then some ⟨other, power⟩
  else none

/-- Tries finer and finer grids. -/
def search (r : Rounding) (tie : Tie) : Nat → Int → Decimal
  | 0, power => ⟨(r.grid power).1, power⟩
  | steps + 1, power =>
    match r.onGrid? tie power with
    | some decimal => decimal
    | none => search r tie steps (power - 1)

/-- A power of ten above the value. A grid coarser than the value holds no decimal that reads
back, save possibly the next power of ten, so that the search may start here. -/
def powerAbove (r : Rounding) : Int :=
  (Nat.log2 r.value - Nat.log2 r.den : Int) * 30103 / 100000 + 2

end Rounding

/-- Drops trailing zeros of the digits. -/
def Decimal.trim (steps : Nat) (d : Decimal) : Decimal :=
  match steps with
  | 0 => d
  | steps + 1 => if d.digits % 10 = 0 then trim steps ⟨d.digits / 10, d.power + 1⟩ else d

/-- The shortest decimal. Seventeen digits always suffice, and the search starts at most three
grids too coarse. -/
def Rounding.shortest (r : Rounding) (tie : Tie) : Decimal :=
  (r.search tie 20 r.powerAbove).trim 17

/-- The shortest decimal of the magnitude of a finite nonzero double. -/
def shortest (x : Binary64) (tie : Tie) : Decimal :=
  (Rounding.ofParts x.mantissa x.exponent
    (x.fractionField = 0 ∧ 1 < x.exponentField)).shortest tie

example : shortest ⟨0x3fb999999999999a⟩ .up = ⟨1, -1⟩ := by decide +kernel
example : shortest ⟨1⟩ .even = ⟨5, -324⟩ := by decide +kernel
example : shortest ⟨0x4310000000000001⟩ .up = ⟨11258999068426243, -1⟩ := by decide +kernel
example : shortest ⟨0x4310000000000001⟩ .even = ⟨11258999068426242, -1⟩ := by decide +kernel

end PathEdit.Binary64
