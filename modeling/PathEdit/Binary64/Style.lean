import PathEdit.Binary64.Shortest

/-! Decimal texts of doubles. A style fixes what the shortest digits leave open. -/
namespace PathEdit.Binary64

/-- How a finite double is written. -/
structure Style where
  tie : Tie
  /-- Whether a whole number keeps a point and one zero. -/
  wholePoint : Bool
  /-- The least and the largest exponent of ten written positionally; without them, all are. -/
  positional : Option (Int × Int)

namespace Style

/-- The digits with a point in front of those below one. -/
def positionalChars (style : Style) (digits : List Char) (power : Int) : List Char :=
  let whole := digits.length + power
  if 0 ≤ power then
    digits ++ List.replicate power.toNat '0' ++ if style.wholePoint then ['.', '0'] else []
  else if 0 < whole then digits.take whole.toNat ++ '.' :: digits.drop whole.toNat
  else '0' :: '.' :: (List.replicate (-whole).toNat '0' ++ digits)

/-- One digit in front of the point, and the exponent of ten without a plus sign. -/
def scientificChars (digits : List Char) (exponent : Int) : List Char :=
  let fraction :=
    match digits.drop 1 with
    | [] => []
    | rest => '.' :: rest
  let magnitude := Nat.toDigits 10 exponent.natAbs
  digits.take 1 ++ fraction ++ 'e' :: if exponent < 0 then '-' :: magnitude else magnitude

/-- The text of a decimal; zero has none of its own digits. -/
def decimalChars (style : Style) (decimal : Decimal) : List Char :=
  let digits := Nat.toDigits 10 decimal.digits
  let exponent : Int := digits.length + decimal.power - 1
  if style.positional.all fun (least, largest) => least ≤ exponent && exponent ≤ largest then
    style.positionalChars digits decimal.power
  else scientificChars digits exponent

def withSign (negative : Bool) (magnitude : List Char) : List Char :=
  if negative then '-' :: magnitude else magnitude

/-- The text of a finite double. -/
def chars (style : Style) (x : Binary64) : List Char :=
  let decimal := if x.isZero then ⟨0, 0⟩ else x.shortest style.tie
  withSign x.isNegative (style.decimalChars decimal)

end Style
end PathEdit.Binary64
