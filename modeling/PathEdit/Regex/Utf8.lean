import PathEdit.Regex.CharSet

/-! Ranges of characters as ranges of the bytes that encode them in UTF-8. -/
namespace PathEdit.Regex

/-- The bytes from `first` to `last`. -/
structure ByteRange where
  first : Nat
  last : Nat
deriving DecidableEq

namespace Utf8

/-- The bytes of a code point. -/
def bytes (code : Nat) : List Nat :=
  if code < 0x80 then [code]
  else if code < 0x800 then [0xc0 + code / 64, 0x80 + code % 64]
  else if code < 0x10000 then [0xe0 + code / 4096, 0x80 + code / 64 % 64, 0x80 + code % 64]
  else [0xf0 + code / 262144, 0x80 + code / 4096 % 64, 0x80 + code / 64 % 64, 0x80 + code % 64]

/-- The code points whose encodings are of one length, without surrogates. -/
def classes : List CodeRange :=
  [⟨0, 0x7f⟩, ⟨0x80, 0x7ff⟩, ⟨0x800, 0xd7ff⟩, ⟨0xe000, 0xffff⟩, ⟨0x10000, 0x10ffff⟩]

/-- Cuts a range into pieces in each of which every byte runs through a range of its own. At each
level the ends that fill no whole block are cut off. -/
def pieces : Nat → Nat → CodeRange → List CodeRange
  | 0, _, range => [range]
  | levels + 1, block, range =>
    if range.first / block = range.last / block then [range]
    else
      let first := (range.first + block - 1) / block * block
      let last := (range.last + 1) / block * block
      (if range.first < first then [⟨range.first, first - 1⟩] else []) ++
        (if first < last then pieces levels (64 * block) ⟨first, last - 1⟩ else []) ++
        (if last ≤ range.last then [⟨last, range.last⟩] else [])

/-- The ranges of bytes, in order, that encode the code points of a piece. -/
def pieceBytes (range : CodeRange) : List ByteRange :=
  List.zipWith ByteRange.mk (bytes range.first) (bytes range.last)

/-- The sequences of byte ranges that encode a range of code points, in ascending order. -/
def rangeSequences (range : CodeRange) : List (List ByteRange) :=
  classes.flatMap fun bounds =>
    let first := max range.first bounds.first
    let last := min range.last bounds.last
    if last < first then []
    else if last < 0x80 then [[⟨first, last⟩]]
    else (pieces 3 64 ⟨first, last⟩).map pieceBytes

/-- The sequences of byte ranges that encode the characters of a set, in ascending order. -/
def sequences (set : CharSet) : List (List ByteRange) := set.ranges.flatMap rangeSequences

end Utf8
end PathEdit.Regex
