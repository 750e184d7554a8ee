import PathEdit.Json.Number

/-! Texts that are read as nulls, booleans or numbers when they stand in a YAML document without
quotes. -/
namespace PathEdit.Yaml

/-- The text behind a given beginning. -/
def behind? (word text : List Char) : Option (List Char) :=
  if word.isPrefixOf text then some (text.drop word.length) else none

def isNull (text : List Char) : Bool :=
  text ∈ ["".toList, "~".toList, "null".toList, "Null".toList, "NULL".toList]

def isBoolean (text : List Char) : Bool :=
  text ∈ ["true".toList, "True".toList, "TRUE".toList, "false".toList, "False".toList,
    "FALSE".toList]

/-- The value of digits in a base; there is none for another character or without digits. -/
def digitsValue? (base : Nat) (text : List Char) : Option Nat :=
  let digit? (c : Char) : Option Nat :=
    let value? :=
      if c.isDigit then some (c.toNat - '0'.toNat)
      else if c.isLower then some (c.toNat - 'a'.toNat + 10)
      else if c.isUpper then some (c.toNat - 'A'.toNat + 10)
      else none
    value?.filter (· < base)
  if text.isEmpty then none
  else text.foldl (fun value c => do return base * (← value) + (← digit? c)) (some 0)

def dropSign (text : List Char) : List Char :=
  match text with
  | '+' :: rest | '-' :: rest => rest
  | _ => text

/-- Several digits of which the first is a zero, with or without a sign: no number, and quoted all
the same. -/
def isZeroPadded (text : List Char) : Bool :=
  match dropSign text with
  | '0' :: rest => !rest.isEmpty && rest.all Char.isDigit
  | _ => false

/-- Digits behind the mark of their base, below a limit. -/
def isMarkedInteger (limit : Nat) (text : List Char) : Bool :=
  let below (base : Nat) (mark : List Char) : Bool :=
    ((behind? mark text).bind (digitsValue? base)).any (· < limit)
  below 16 ['0', 'x'] || below 8 ['0', 'o'] || below 2 ['0', 'b']

/-- An integer of at most 128 bits: with a mark of its base, or decimal. Decimal integers of any
length are floats as well. -/
def isInteger (text : List Char) : Bool :=
  match text with
  | '-' :: rest => isMarkedInteger (Nat.pow 2 127 + 1) rest
  | '+' :: rest => isMarkedInteger (Nat.pow 2 128) rest
  | _ => isMarkedInteger (Nat.pow 2 128) text

/-- The least number whose nearest double is infinite. -/
def overflow : Nat := Nat.pow 2 1024 - Nat.pow 2 970

/-- Whether digits with a point in front of the last `scale` of them, times a power of ten, are
below the overflow. Far from it the number of digits decides. -/
def isBelowOverflow (digits : List Char) (scale : Nat) (power : Int) : Bool :=
  let significant := digits.dropWhile (· == '0')
  let magnitude : Int := significant.length - scale + power
  if significant.isEmpty || magnitude < 300 then true
  else if 320 < magnitude then false
  else
    let value := Nat.ofDigitChars 10 significant 0
    let shift := power - scale
    value * Nat.pow 10 shift.toNat < overflow * Nat.pow 10 (-shift).toNat

/-- A finite decimal number with an optional sign, fraction and exponent, and a digit in front of
the exponent. -/
def isDecimal (text : List Char) : Bool :=
  let text := dropSign text
  let whole := text.takeWhile Char.isDigit
  let rest := text.dropWhile Char.isDigit
  let (fraction, rest) :=
    match rest with
    | '.' :: rest => (rest.takeWhile Char.isDigit, rest.dropWhile Char.isDigit)
    | _ => ([], rest)
  if whole.isEmpty && fraction.isEmpty then false
  else
    match rest with
    | [] => isBelowOverflow (whole ++ fraction) fraction.length 0
    | e :: rest =>
      let exponent := dropSign rest
      let magnitude : Int := Nat.ofDigitChars 10 exponent 0
      let power := if rest.head? == some '-' then -magnitude else magnitude
      (e == 'e' || e == 'E') && !exponent.isEmpty && exponent.all Char.isDigit &&
        isBelowOverflow (whole ++ fraction) fraction.length power

def isSpecialFloat (text : List Char) : Bool :=
  dropSign text ∈ [".inf".toList, ".Inf".toList, ".INF".toList] ||
    text ∈ [".nan".toList, ".NaN".toList, ".NAN".toList]

/-- Whether a text without quotes would be read as something other than a string, or nearly. -/
def isAmbiguous (text : List Char) : Bool :=
  isNull text || isBoolean text || isZeroPadded text || isInteger text || isDecimal text ||
    isSpecialFloat text

end PathEdit.Yaml
