import PathEdit.Binary64.Style

/-! IEEE 754 single-precision numbers, which widen exactly to doubles. -/
namespace PathEdit

/-- A single-precision number, given by its bits. -/
structure Binary32 where
  bits : UInt32
deriving DecidableEq

namespace Binary32

def isNegative (x : Binary32) : Bool := x.bits.toNat / Nat.pow 2 31 = 1

def exponentField (x : Binary32) : Nat := x.bits.toNat / Nat.pow 2 23 % Nat.pow 2 8

def fractionField (x : Binary32) : Nat := x.bits.toNat % Nat.pow 2 23

def isFinite (x : Binary32) : Bool := x.exponentField != 255

def mantissa (x : Binary32) : Nat :=
  if x.exponentField = 0 then x.fractionField else Nat.pow 2 23 + x.fractionField

def exponent (x : Binary32) : Int := (max x.exponentField 1 : Nat) - 150

/-- The double of the same value. -/
def widen (x : Binary32) : Binary64 :=
  if x.isFinite then .ofScaled x.isNegative x.mantissa 1 x.exponent
  else if x.fractionField = 0 then .infinity x.isNegative
  else .nan

/-- The text of a finite number: the fewest digits that read back in single precision. -/
def chars (style : Binary64.Style) (x : Binary32) : List Char :=
  let decimal :=
    if x.mantissa = 0 then ⟨0, 0⟩
    else (Binary64.Rounding.ofParts x.mantissa x.exponent
      (x.fractionField = 0 ∧ 1 < x.exponentField)).shortest style.tie
  Binary64.Style.withSign x.isNegative (style.decimalChars decimal)

example : (⟨0x3dcccccd⟩ : Binary32).chars ⟨.even, true, none⟩ = "0.1".toList := by decide +kernel

end Binary32
end PathEdit
