import PathEdit.Unicode.Property
import PathEdit.Unicode.CaseFolding

/-! Sets of characters as ascending ranges of code points, with the operations of classes and
escapes in regular expressions. -/
namespace PathEdit.Regex

/-- The code points from `first` to `last`. -/
structure CodeRange where
  first : Nat
  last : Nat
deriving DecidableEq

namespace CodeRange

/-- Merges two ascending lists by the beginnings of their ranges. -/
def mergeOnto (range : CodeRange) (behind : List CodeRange → List CodeRange)
    (self : List CodeRange) : List CodeRange → List CodeRange
  | [] => self
  | other :: rest =>
    if range.first ≤ other.first then range :: behind (other :: rest)
    else other :: mergeOnto range behind self rest

def merge : List CodeRange → List CodeRange → List CodeRange
  | [], others => others
  | range :: rest, others => mergeOnto range (merge rest) (range :: rest) others

/-- Joins ranges without a gap between them, behind one that is open to be extended. -/
def join (range : CodeRange) : List CodeRange → List CodeRange
  | [] => [range]
  | next :: rest =>
    if next.first ≤ range.last + 1 then join ⟨range.first, max range.last next.last⟩ rest
    else range :: join next rest

/-- The ranges between the given ones, from a code point on. -/
def gaps (first : Nat) : List CodeRange → List CodeRange
  | [] => if first ≤ 0x10ffff then [⟨first, 0x10ffff⟩] else []
  | range :: rest =>
    if first < range.first then ⟨first, range.first - 1⟩ :: gaps (range.last + 1) rest
    else gaps (range.last + 1) rest

def holds (code : Nat) : List CodeRange → Bool
  | [] => false
  | range :: rest =>
    if code < range.first then false else code ≤ range.last || holds code rest

end CodeRange

/-- A set of characters: its ranges in ascending order, with a gap between any two. -/
structure CharSet where
  ranges : List CodeRange
deriving DecidableEq

namespace CharSet

/-- The set of ranges in ascending order of their beginnings. -/
def ofAscending : List CodeRange → CharSet
  | [] => ⟨[]⟩
  | range :: rest => ⟨range.join rest⟩

def holds (set : CharSet) (code : Nat) : Bool := CodeRange.holds code set.ranges

def contains (set : CharSet) (c : Char) : Bool := set.holds c.toNat

def none : CharSet := ⟨[]⟩

def range (first last : Nat) : CharSet := ⟨[⟨first, last⟩]⟩

def single (c : Char) : CharSet := range c.toNat c.toNat

def union (left right : CharSet) : CharSet :=
  ofAscending (CodeRange.merge left.ranges right.ranges)

def unions (sets : List CharSet) : CharSet := sets.foldr union none

/-- The characters outside a set; surrogates are no characters. -/
def compl (set : CharSet) : CharSet := ⟨CodeRange.gaps 0 (union set (range 0xd800 0xdfff)).ranges⟩

def any : CharSet := compl none

def inter (left right : CharSet) : CharSet := compl (union (compl left) (compl right))

def diff (left right : CharSet) : CharSet := inter left (compl right)

def symmDiff (left right : CharSet) : CharSet := union (diff left right) (diff right left)

/-- The set or its complement. -/
def negateIf (negated : Bool) (set : CharSet) : CharSet := if negated then compl set else set

def ofRanges (ranges : List (Char × Char)) : CharSet :=
  unions (ranges.map fun (first, last) => range first.toNat last.toNat)

def listed (spans : List Unicode.Span) : CharSet :=
  ofAscending (spans.flatMap fun span => span.bounds.map fun (first, last) => ⟨first, last⟩)

def listedAny (tables : List (List Unicode.Span)) : CharSet := unions (tables.map listed)

/-- The set with all characters that match one of its own regardless of case. -/
def anyCase (set : CharSet) : CharSet :=
  let folded := unions (Unicode.foldedPairs.filterMap fun (code, target) =>
    if set.holds code || set.holds target then some (range target target) else Option.none)
  let unfolded := ofAscending (Unicode.foldedPairs.filterMap fun (code, target) =>
    if folded.holds target then some ⟨code, code⟩ else Option.none)
  union set (union folded unfolded)

/-- The only character of a set. -/
def only? (set : CharSet) : Option Char :=
  match set.ranges with
  | [⟨first, last⟩] => if first = last then some (Char.ofNat first) else Option.none
  | _ => Option.none

def isEmpty (set : CharSet) : Bool := set.ranges.isEmpty

def isAscii (set : CharSet) : Bool := set.ranges.all (·.last < 0x80)

def digit : CharSet := listed Unicode.Category.decimalNumber

def blank : CharSet := listed Unicode.whiteSpace

def word : CharSet := listedAny Unicode.word

def asciiDigit : CharSet := ofRanges [('0', '9')]

def asciiBlank : CharSet := ofRanges [('\t', '\r'), (' ', ' ')]

def asciiWord : CharSet := ofRanges [('0', '9'), ('A', 'Z'), ('_', '_'), ('a', 'z')]

/-- The sets with names between `[:` and `:]`, all of ASCII characters. -/
def posix? : String → Option CharSet
  | "alnum" => some (ofRanges [('0', '9'), ('A', 'Z'), ('a', 'z')])
  | "alpha" => some (ofRanges [('A', 'Z'), ('a', 'z')])
  | "ascii" => some (range 0 0x7f)
  | "blank" => some (ofRanges [('\t', '\t'), (' ', ' ')])
  | "cntrl" => some (union (range 0 0x1f) (range 0x7f 0x7f))
  | "digit" => some asciiDigit
  | "graph" => some (ofRanges [('!', '~')])
  | "lower" => some (ofRanges [('a', 'z')])
  | "print" => some (ofRanges [(' ', '~')])
  | "punct" => some (ofRanges [('!', '/'), (':', '@'), ('[', '\x60'), ('\x7b', '~')])
  | "space" => some asciiBlank
  | "upper" => some (ofRanges [('A', 'Z')])
  | "word" => some asciiWord
  | "xdigit" => some (ofRanges [('0', '9'), ('A', 'F'), ('a', 'f')])
  | _ => Option.none

end CharSet
end PathEdit.Regex
