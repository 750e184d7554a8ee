import PathEdit.Batch

/-! Values, arguments, operations and policies in constructor form, for diagnostics. -/
namespace PathEdit.Inspect

/-- Numbers from `10 ^ -4` to below `10 ^ 16` are positional, whole ones with a zero behind the
point. -/
def floatStyle : Binary64.Style := ⟨.up, true, some (-4, 15)⟩

def floatChars (x : Binary64) : List Char :=
  if x.isFinite then floatStyle.chars x
  else if x.isNaN then "NaN".toList
  else Binary64.Style.withSign x.isNegative "inf".toList

/-- The general categories with a shape of their own. -/
def shapes : List (List Unicode.Span) :=
  Unicode.letter ++ Unicode.mark ++
    [Unicode.Category.decimalNumber, Unicode.Category.letterNumber, Unicode.Category.otherNumber,
     Unicode.Category.connectorPunctuation, Unicode.Category.dashPunctuation,
     Unicode.Category.openPunctuation, Unicode.Category.closePunctuation,
     Unicode.Category.initialPunctuation, Unicode.Category.finalPunctuation,
     Unicode.Category.otherPunctuation, Unicode.Category.mathSymbol,
     Unicode.Category.currencySymbol, Unicode.Category.modifierSymbol,
     Unicode.Category.otherSymbol]

/-- Characters that extend the one before them. -/
def extendsPrevious (c : Char) : Bool :=
  [Unicode.Category.nonspacingMark, Unicode.Category.enclosingMark,
    Unicode.otherGraphemeExtend].any (Unicode.Span.listed · c)

/-- Characters that show by themselves what they are. -/
def isVisible (c : Char) : Bool :=
  c == ' ' || !extendsPrevious c && shapes.any (Unicode.Span.listed · c)

def escape (c : Char) : List Char :=
  match c with
  | '\x00' => ['\\', '0']
  | '\t' => ['\\', 't']
  | '\r' => ['\\', 'r']
  | '\n' => ['\\', 'n']
  | '\\' => ['\\', '\\']
  | '"' => ['\\', '"']
  | c =>
    if isVisible c then [c]
    else '\\' :: 'u' :: '\x7b' :: (Nat.toDigits 16 c.toNat ++ ['\x7d'])

def stringChars (s : String) : List Char := '"' :: (s.toList.flatMap escape ++ ['"'])

/-- A constructor with its argument. -/
def call (name : String) (argument : List Char) : List Char :=
  name.toList ++ '(' :: (argument ++ [')'])

def listed (parts : List (List Char)) : List Char := List.intercalate [',', ' '] parts

mutual

def treeChars : Tree → List Char
  | .null => "Null".toList
  | .boolean b => call "Boolean" (if b then "true".toList else "false".toList)
  | .integer n => call "Integer" (Json.intChars n.toInt)
  | .float x => call "Float" (floatChars x)
  | .string s => call "String" (stringChars s)
  | .array items => call "Array" ('[' :: (listed (itemsChars items) ++ [']']))
  | .object entries =>
    call "Object" ('\x7b' :: (listed (entriesChars entries) ++ ['\x7d']))

def itemsChars : List Tree → List (List Char)
  | [] => []
  | item :: rest => treeChars item :: itemsChars rest

def entriesChars : List (String × Tree) → List (List Char)
  | [] => []
  | (name, item) :: rest =>
    (stringChars name ++ ':' :: ' ' :: treeChars item) :: entriesChars rest

end

def value (v : Value) : List Char := treeChars v.tree

def argument : Argument → String
  | .value v => String.ofList (call "Value" (value v))
  | .transform _ => "Func(..)"

def operation : Operation → String
  | .set v => String.ofList (call "Set" (value v))
  | .unset => "Unset"
  | .apply _ => "Apply(..)"

def policy (p : KeyPolicy) : String :=
  let lead := p.lead.elim "None".toList fun lead => call "Some" (stringChars lead)
  let rename := if p.rename.isSome then "Some(\"..\")".toList else "None".toList
  String.ofList ("OperationOptions \x7b prefix: ".toList ++ lead ++ ", rename: ".toList ++ rename ++
    " \x7d".toList)

end PathEdit.Inspect
