import PathEdit.Unicode.Span

/-! Characters by their part in the bounds of clusters, words and sentences, as of Unicode 16. -/
namespace PathEdit.Unicode

/-- Letters in front of a cluster. -/
def clusterPrepend : List Span :=
  [⟨0xd4e, 0xd4e, 1⟩, ⟨0x111c2, 0x111c3, 1⟩, ⟨0x113d1, 0x113d1, 1⟩, ⟨0x1193f, 0x1193f, 1⟩,
   ⟨0x11941, 0x11941, 1⟩, ⟨0x11a3a, 0x11a3a, 1⟩, ⟨0x11a84, 0x11a89, 1⟩, ⟨0x11d46, 0x11d46, 1⟩,
   ⟨0x11f02, 0x11f02, 1⟩]

/-- Letters that follow as spacing marks do. -/
def spacingLetter : List Span := [⟨0xe33, 0xe33, 1⟩, ⟨0xeb3, 0xeb3, 1⟩]

/-- Spacing marks that begin a cluster. -/
def freeSpacingMark : List Span :=
  [⟨0x102b, 0x102c, 1⟩, ⟨0x1038, 0x1038, 1⟩, ⟨0x1062, 0x1064, 1⟩, ⟨0x1067, 0x106d, 1⟩,
   ⟨0x1083, 0x1083, 1⟩, ⟨0x1087, 0x108c, 1⟩, ⟨0x108f, 0x108f, 1⟩, ⟨0x109a, 0x109c, 1⟩,
   ⟨0x1a61, 0x1a61, 1⟩, ⟨0x1a63, 0x1a64, 1⟩, ⟨0xaa7b, 0xaa7b, 1⟩, ⟨0xaa7d, 0xaa7d, 1⟩,
   ⟨0x11720, 0x11721, 1⟩]

/-- Leading consonants of syllable blocks. -/
def leadingJamo : List Span := [⟨0x1100, 0x115f, 1⟩, ⟨0xa960, 0xa97c, 1⟩]

/-- Vowels of syllable blocks. -/
def vowelJamo : List Span :=
  [⟨0x1160, 0x11a7, 1⟩, ⟨0xd7b0, 0xd7c6, 1⟩, ⟨0x16d63, 0x16d63, 1⟩, ⟨0x16d67, 0x16d6a, 1⟩]

/-- Trailing consonants of syllable blocks. -/
def trailingJamo : List Span := [⟨0x11a8, 0x11ff, 1⟩, ⟨0xd7cb, 0xd7fb, 1⟩]

/-- Syllable blocks. -/
def syllableBlock : List Span := [⟨0xac00, 0xd7a3, 1⟩]

/-- Letters of scripts without blanks between words, which dictionaries divide. -/
def unspacedLetter : List Span :=
  [⟨0xe01, 0xe30, 1⟩, ⟨0xe32, 0xe33, 1⟩, ⟨0xe40, 0xe46, 1⟩, ⟨0xe81, 0xe82, 1⟩, ⟨0xe84, 0xe84, 1⟩,
   ⟨0xe86, 0xe8a, 1⟩, ⟨0xe8c, 0xea3, 1⟩, ⟨0xea5, 0xea5, 1⟩, ⟨0xea7, 0xeb0, 1⟩, ⟨0xeb2, 0xeb3, 1⟩,
   ⟨0xebd, 0xebd, 1⟩, ⟨0xec0, 0xec4, 1⟩, ⟨0xec6, 0xec6, 1⟩, ⟨0xedc, 0xedf, 1⟩,
   ⟨0x1000, 0x102a, 1⟩, ⟨0x103f, 0x103f, 1⟩, ⟨0x1050, 0x1055, 1⟩, ⟨0x105a, 0x105d, 1⟩,
   ⟨0x1061, 0x1061, 1⟩, ⟨0x1065, 0x1066, 1⟩, ⟨0x106e, 0x1070, 1⟩, ⟨0x1075, 0x1081, 1⟩,
   ⟨0x108e, 0x108e, 1⟩, ⟨0x1780, 0x17b3, 1⟩, ⟨0x17d7, 0x17d7, 1⟩, ⟨0x17dc, 0x17dc, 1⟩,
   ⟨0x1950, 0x196d, 1⟩, ⟨0x1970, 0x1974, 1⟩, ⟨0x1980, 0x19ab, 1⟩, ⟨0x19b0, 0x19c9, 1⟩,
   ⟨0x1a20, 0x1a54, 1⟩, ⟨0x1aa7, 0x1aa7, 1⟩, ⟨0xa9e0, 0xa9e4, 1⟩, ⟨0xa9e6, 0xa9ef, 1⟩,
   ⟨0xa9fa, 0xa9fe, 1⟩, ⟨0xaa60, 0xaa76, 1⟩, ⟨0xaa7a, 0xaa7a, 1⟩, ⟨0xaa7e, 0xaaaf, 1⟩,
   ⟨0xaab1, 0xaab1, 1⟩, ⟨0xaab5, 0xaab6, 1⟩, ⟨0xaab9, 0xaabd, 1⟩, ⟨0xaac0, 0xaac0, 1⟩,
   ⟨0xaac2, 0xaac2, 1⟩, ⟨0xaadb, 0xaadd, 1⟩, ⟨0x11700, 0x1171a, 1⟩, ⟨0x11740, 0x11746, 1⟩]

/-- Letters of words beyond the alphabetic ones. -/
def otherWordLetter : List Span :=
  [⟨0x2c2, 0x2c5, 1⟩, ⟨0x2d2, 0x2d7, 1⟩, ⟨0x2de, 0x2df, 1⟩, ⟨0x2e5, 0x2eb, 1⟩, ⟨0x2ed, 0x2ed, 1⟩,
   ⟨0x2ef, 0x2ff, 1⟩, ⟨0x55a, 0x55c, 1⟩, ⟨0x55e, 0x55e, 1⟩, ⟨0x58a, 0x58a, 1⟩, ⟨0x5f3, 0x5f3, 1⟩,
   ⟨0xa708, 0xa716, 1⟩, ⟨0xa720, 0xa721, 1⟩, ⟨0xa789, 0xa78a, 1⟩, ⟨0xab5b, 0xab5b, 1⟩]

/-- Katakana of words. -/
def wordKatakana : List Span :=
  [⟨0x3031, 0x3035, 1⟩, ⟨0x309b, 0x309c, 1⟩, ⟨0x30a0, 0x30fa, 1⟩, ⟨0x30fc, 0x30ff, 1⟩,
   ⟨0x31f0, 0x31ff, 1⟩, ⟨0x32d0, 0x32fe, 1⟩, ⟨0x3300, 0x3357, 1⟩, ⟨0xff66, 0xff9d, 1⟩,
   ⟨0x1aff0, 0x1aff3, 1⟩, ⟨0x1aff5, 0x1affb, 1⟩, ⟨0x1affd, 0x1affe, 1⟩, ⟨0x1b000, 0x1b000, 1⟩,
   ⟨0x1b120, 0x1b122, 1⟩, ⟨0x1b155, 0x1b155, 1⟩, ⟨0x1b164, 0x1b167, 1⟩]

/-- Marks within words. -/
def midLetter : List Span :=
  [⟨0x3a, 0x3a, 1⟩, ⟨0xb7, 0xb7, 1⟩, ⟨0x387, 0x387, 1⟩, ⟨0x55f, 0x55f, 1⟩, ⟨0x5f4, 0x5f4, 1⟩,
   ⟨0x2027, 0x2027, 1⟩, ⟨0xfe13, 0xfe13, 1⟩, ⟨0xfe55, 0xfe55, 1⟩, ⟨0xff1a, 0xff1a, 1⟩]

/-- Marks within numbers. -/
def midNumber : List Span :=
  [⟨0x2c, 0x2c, 1⟩, ⟨0x3b, 0x3b, 1⟩, ⟨0x37e, 0x37e, 1⟩, ⟨0x589, 0x589, 1⟩, ⟨0x60c, 0x60d, 1⟩,
   ⟨0x66c, 0x66c, 1⟩, ⟨0x7f8, 0x7f8, 1⟩, ⟨0x2044, 0x2044, 1⟩, ⟨0xfe10, 0xfe10, 1⟩,
   ⟨0xfe14, 0xfe14, 1⟩, ⟨0xfe50, 0xfe50, 1⟩, ⟨0xfe54, 0xfe54, 1⟩, ⟨0xff0c, 0xff0c, 1⟩,
   ⟨0xff1b, 0xff1b, 1⟩]

/-- Marks within words and numbers. -/
def midBoth : List Span :=
  [⟨0x2e, 0x2e, 1⟩, ⟨0x2018, 0x2019, 1⟩, ⟨0x2024, 0x2024, 1⟩, ⟨0xfe52, 0xfe52, 1⟩,
   ⟨0xff07, 0xff07, 1⟩, ⟨0xff0e, 0xff0e, 1⟩]

/-- Connectors of words and numbers. -/
def wordConnector : List Span :=
  [⟨0x5f, 0x5f, 1⟩, ⟨0x202f, 0x202f, 1⟩, ⟨0x203f, 0x2040, 1⟩, ⟨0x2054, 0x2054, 1⟩,
   ⟨0xfe33, 0xfe34, 1⟩, ⟨0xfe4d, 0xfe4f, 1⟩, ⟨0xff3f, 0xff3f, 1⟩]

/-- Line ends beyond carriage return and line feed. -/
def newline : List Span := [⟨0xb, 0xc, 1⟩, ⟨0x85, 0x85, 1⟩, ⟨0x2028, 0x2029, 1⟩]

/-- Blanks between words. -/
def wordBlank : List Span :=
  [⟨0x20, 0x20, 1⟩, ⟨0x1680, 0x1680, 1⟩, ⟨0x2000, 0x2006, 1⟩, ⟨0x2008, 0x200a, 1⟩,
   ⟨0x205f, 0x205f, 1⟩, ⟨0x3000, 0x3000, 1⟩]

/-- Points that may end a sentence. -/
def sentencePoint : List Span :=
  [⟨0x2e, 0x2e, 1⟩, ⟨0x2024, 0x2024, 1⟩, ⟨0xfe52, 0xfe52, 1⟩, ⟨0xff0e, 0xff0e, 1⟩]

/-- Marks within a sentence. -/
def sentenceComma : List Span :=
  [⟨0x2c, 0x2d, 1⟩, ⟨0x3a, 0x3a, 1⟩, ⟨0x55d, 0x55d, 1⟩, ⟨0x60c, 0x60d, 1⟩, ⟨0x7f8, 0x7f8, 1⟩,
   ⟨0x1802, 0x1802, 1⟩, ⟨0x1808, 0x1808, 1⟩, ⟨0x2013, 0x2014, 1⟩, ⟨0x3001, 0x3001, 1⟩,
   ⟨0xfe10, 0xfe11, 1⟩, ⟨0xfe13, 0xfe13, 1⟩, ⟨0xfe31, 0xfe32, 1⟩, ⟨0xfe50, 0xfe51, 1⟩,
   ⟨0xfe55, 0xfe55, 1⟩, ⟨0xfe58, 0xfe58, 1⟩, ⟨0xfe63, 0xfe63, 1⟩, ⟨0xff0c, 0xff0d, 1⟩,
   ⟨0xff1a, 0xff1a, 1⟩, ⟨0xff64, 0xff64, 1⟩]

/-- Quotation marks that are neither initial nor final. -/
def plainQuotation : List Span :=
  [⟨0x22, 0x22, 1⟩, ⟨0x27, 0x27, 1⟩, ⟨0x275b, 0x2760, 1⟩, ⟨0x2e00, 0x2e01, 1⟩,
   ⟨0x2e06, 0x2e08, 1⟩, ⟨0x2e0b, 0x2e0b, 1⟩, ⟨0x1f676, 0x1f678, 1⟩]

end PathEdit.Unicode
