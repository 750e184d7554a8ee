/-! IEEE 754 double-precision numbers as 64-bit words. Every operation goes through the exact
value `mantissa · 2 ^ exponent` of a word and back through `ofRatio`, the one rounding. -/
namespace PathEdit

/-- A double-precision number, given by its bits. -/
structure Binary64 where
  bits : UInt64
deriving DecidableEq

namespace Binary64

def isNegative (x : Binary64) : Bool := x.bits.toNat / Nat.pow 2 63 = 1

/-- The eleven bits of the exponent field. -/
def exponentField (x : Binary64) : Nat := x.bits.toNat / Nat.pow 2 52 % Nat.pow 2 11

/-- The fifty-two bits of the fraction field. -/
def fractionField (x : Binary64) : Nat := x.bits.toNat % Nat.pow 2 52

def isFinite (x : Binary64) : Bool := x.exponentField != 2047

def isNaN (x : Binary64) : Bool := x.exponentField == 2047 && x.fractionField != 0

/-- The integer that a finite word scales by `2 ^ exponent`. -/
def mantissa (x : Binary64) : Nat :=
  if x.exponentField = 0 then x.fractionField else Nat.pow 2 52 + x.fractionField

/-- The power of two that scales the mantissa of a finite word. -/
def exponent (x : Binary64) : Int := (max x.exponentField 1 : Nat) - 1075

def isZero (x : Binary64) : Bool := x.exponentField == 0 && x.fractionField == 0

/-- The word with the given sign and the 63 other bits of `magnitude`. -/
def ofMagnitude (negative : Bool) (magnitude : Nat) : Binary64 :=
  ⟨UInt64.ofNat ((if negative then Nat.pow 2 63 else 0) + magnitude)⟩

def infinity (negative : Bool) : Binary64 := ofMagnitude negative (2047 * Nat.pow 2 52)

def nan : Binary64 := ofMagnitude false (2047 * Nat.pow 2 52 + Nat.pow 2 51)

def zero (negative : Bool) : Binary64 := ofMagnitude negative 0

/-- The quotient rounded to the nearest integer, a half to the even neighbour. -/
def roundQuotient (num den : Nat) : Nat :=
  let quotient := num / den
  let twice := 2 * (num % den)
  if twice < den then quotient
  else if den < twice then quotient + 1
  else quotient + quotient % 2

/-- The largest `k` with `2 ^ k ≤ num / den`, for positive `num` and `den`. -/
def floorLog (num den : Nat) : Int :=
  let guess : Int := Nat.log2 num - Nat.log2 den
  let reached :=
    if 0 ≤ guess then decide (den * Nat.pow 2 guess.toNat ≤ num)
    else decide (den ≤ num * Nat.pow 2 (-guess).toNat)
  if reached then guess else guess - 1

/-- The double nearest to `± num / den`: a half goes to the even neighbour, and what is too large
becomes an infinity. -/
def ofRatio (negative : Bool) (num den : Nat) : Binary64 :=
  if num = 0 then zero negative
  else
    let scale : Int := max (floorLog num den - 52) (-1074)
    let rounded :=
      if 0 ≤ scale then roundQuotient num (den * Nat.pow 2 scale.toNat)
      else roundQuotient (num * Nat.pow 2 (-scale).toNat) den
    let magnitude := (scale + 1074).toNat * Nat.pow 2 52 + rounded
    if 2047 * Nat.pow 2 52 ≤ magnitude then infinity negative else ofMagnitude negative magnitude

/-- The double nearest to `± num · 2 ^ power / den`. -/
def ofScaled (negative : Bool) (num den : Nat) (power : Int) : Binary64 :=
  if 0 ≤ power then ofRatio negative (num * Nat.pow 2 power.toNat) den
  else ofRatio negative num (den * Nat.pow 2 (-power).toNat)

/-- The product of finite numbers, rounded once. -/
def mul (x y : Binary64) : Binary64 :=
  ofScaled (x.isNegative != y.isNegative) (x.mantissa * y.mantissa) 1 (x.exponent + y.exponent)

/-- The quotient of finite numbers by a nonzero one, rounded once. -/
def div (x y : Binary64) : Binary64 :=
  ofScaled (x.isNegative != y.isNegative) x.mantissa y.mantissa (x.exponent - y.exponent)

def neg (x : Binary64) : Binary64 := ⟨x.bits ^^^ 0x8000000000000000⟩

/-- The double nearest to an integer. -/
def ofInt (n : Int) : Binary64 := ofRatio (n < 0) n.natAbs 1

/-- The double nearest to a natural number. -/
def ofNat (n : Nat) : Binary64 := ofRatio false n 1

/-- The value of a finite number without a fraction part. -/
def toInt? (x : Binary64) : Option Int :=
  let up : Nat := Nat.pow 2 x.exponent.toNat
  let down : Nat := Nat.pow 2 (-x.exponent).toNat
  if x.isFinite ∧ x.mantissa * up % down = 0 then
    let magnitude : Nat := x.mantissa * up / down
    some (if x.isNegative then -magnitude else magnitude)
  else none

/-- Numerical equality: a NaN differs from every number and the two zeros are equal. -/
def sameNumber (x y : Binary64) : Bool :=
  !x.isNaN && !y.isNaN && (x == y || x.isZero && y.isZero)

example : ofRatio false 1 10 = ⟨0x3fb999999999999a⟩ := by decide +kernel
example : ofRatio true 3 2 = ⟨0xbff8000000000000⟩ := by decide +kernel
example : (ofRatio false (Nat.pow 2 63) 1).toInt? = some 9223372036854775808 := by decide +kernel

end Binary64
end PathEdit
