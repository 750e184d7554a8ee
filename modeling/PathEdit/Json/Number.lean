import PathEdit.Value.Basic

/-! Numbers of JSON texts.

A number without a fraction and an exponent is an integer when it fits 64 bits with sign. Any
other is a float, read in two roundings: as many leading digits as fit 64 bits without sign become
the nearest double, which is then multiplied or divided by a power of ten. -/
namespace PathEdit.Json

/-- The parts of a number as written. -/
structure Numeral where
  negative : Bool
  whole : List Char
  fraction : List Char
  /-- The sign and the digits of the exponent; without digits there is none. -/
  exponentNegative : Bool
  exponent : List Char
  /-- Whether it has neither a fraction nor an exponent. -/
  isWhole : Bool

namespace Numeral

def digitValue (c : Char) : Nat := c.toNat - '0'.toNat

/-- Appends digits to a number as long as it stays below the limit; the digits left over come
with it. -/
def absorb (limit : Nat) (significand : Nat) : List Char → Nat × List Char
  | [] => (significand, [])
  | c :: rest =>
    let next := 10 * significand + digitValue c
    if next < limit then absorb limit next rest else (significand, c :: rest)

/-- The double nearest to a power of ten. -/
def tenPower (power : Nat) : Binary64 := .ofNat (Nat.pow 10 power)

/-- A double times a power of ten; there is no result beyond the largest double. A divisor beyond
the largest power is taken in steps, of which three reach zero. -/
def scale : Nat → Binary64 → Int → Option Binary64
  | 0, x, _ => some x
  | steps + 1, x, power =>
    if power.natAbs ≤ 308 then
      if 0 ≤ power then
        let product := x.mul (tenPower power.toNat)
        if product.isFinite then some product else none
      else some (x.div (tenPower power.natAbs))
    else if x.isZero then some x
    else if 0 ≤ power then none
    else scale steps (x.div (tenPower 308)) (power + 308)

/-- The float of a number, if it does not overflow. -/
def float? (n : Numeral) : Option Binary64 :=
  let (whole, wholeLeft) := absorb UInt64.size 0 n.whole
  let (significand, fractionLeft) := absorb UInt64.size whole n.fraction
  let shift : Int := wholeLeft.length - (n.fraction.length - fractionLeft.length : Nat)
  let (exponent, exponentLeft) := absorb (Nat.pow 2 31) 0 n.exponent
  let magnitude :=
    if exponentLeft.isEmpty then
      scale 4 (.ofNat significand) (if n.exponentNegative then shift - exponent else shift + exponent)
    else if significand = 0 || n.exponentNegative then some (.zero false)
    else none
  magnitude.map fun x => if n.negative then x.neg else x

/-- The value of a number, if it does not overflow. -/
def value? (n : Numeral) : Option Value :=
  let whole := Nat.ofDigitChars 10 n.whole 0
  if n.isWhole && !n.negative && whole < Nat.pow 2 63 then some (.integer (Int64.ofNat whole))
  else if n.isWhole && n.negative && 0 < whole && whole ≤ Nat.pow 2 63 then
    some (.integer (Int64.ofInt (-whole)))
  else n.float?.map Value.float

/-- The digits at the beginning of a text, of which there must be one, and the rest. -/
def digits (text : List Char) : Option (List Char × List Char) :=
  match text.takeWhile Char.isDigit with
  | [] => none
  | digits => some (digits, text.dropWhile Char.isDigit)

/-- The digits in front of a point; a zero stands alone. -/
def wholeDigits (text : List Char) : Option (List Char × List Char) :=
  match text with
  | '0' :: rest => if (rest.head?.any Char.isDigit) then none else some (['0'], rest)
  | _ => digits text

/-- The digits behind a point, if there is one. -/
def fractionDigits (text : List Char) : Option (List Char × List Char) :=
  match text with
  | '.' :: rest => digits rest
  | _ => some ([], text)

/-- The sign and the digits of an exponent, if there is one. -/
def exponentDigits (text : List Char) : Option ((Bool × List Char) × List Char) :=
  match text with
  | 'e' :: rest | 'E' :: rest =>
    match rest with
    | '-' :: rest => (digits rest).map fun (ds, rest) => ((true, ds), rest)
    | '+' :: rest => (digits rest).map fun (ds, rest) => ((false, ds), rest)
    | rest => (digits rest).map fun (ds, rest) => ((false, ds), rest)
  | _ => some ((false, []), text)

/-- The number at the beginning of a text, and the rest. -/
def read (text : List Char) : Option (Numeral × List Char) := do
  let (negative, text) :=
    match text with
    | '-' :: rest => (true, rest)
    | _ => (false, text)
  let (whole, rest) ← wholeDigits text
  let (fraction, rest) ← fractionDigits rest
  let ((exponentNegative, exponent), rest) ← exponentDigits rest
  let isWhole := fraction.isEmpty && exponent.isEmpty
  return (⟨negative, whole, fraction, exponentNegative, exponent, isWhole⟩, rest)

end Numeral
end PathEdit.Json
