import PathEdit.Unicode.Span

/-! Characters of identifiers and of what stands between them, as of Unicode 16. -/
namespace PathEdit.Unicode

/-- The characters of Other_ID_Start. -/
def otherIdStart : List Span :=
  [⟨0x1885, 0x1886, 1⟩, ⟨0x2118, 0x2118, 1⟩, ⟨0x212e, 0x212e, 1⟩, ⟨0x309b, 0x309c, 1⟩]

/-- The characters of Other_ID_Continue. -/
def otherIdContinue : List Span :=
  [⟨0xb7, 0xb7, 1⟩, ⟨0x387, 0x387, 1⟩, ⟨0x1369, 0x1371, 1⟩, ⟨0x19da, 0x19da, 1⟩,
   ⟨0x200c, 0x200d, 1⟩, ⟨0x30fb, 0x30fb, 1⟩, ⟨0xff65, 0xff65, 1⟩]

/-- The characters of ID_Start that compatibility mappings turn into others. -/
def unstableIdStart : List Span :=
  [⟨0x37a, 0x37a, 1⟩, ⟨0xe33, 0xe33, 1⟩, ⟨0xeb3, 0xeb3, 1⟩, ⟨0x309b, 0x309c, 1⟩,
   ⟨0xfc5e, 0xfc63, 1⟩, ⟨0xfdfa, 0xfdfb, 1⟩, ⟨0xfe70, 0xfe7e, 2⟩, ⟨0xff9e, 0xff9f, 1⟩]

/-- The characters of ID_Continue that compatibility mappings turn into others. -/
def unstableIdContinue : List Span :=
  [⟨0x37a, 0x37a, 1⟩, ⟨0x309b, 0x309c, 1⟩, ⟨0xfc5e, 0xfc63, 1⟩, ⟨0xfdfa, 0xfdfb, 1⟩,
   ⟨0xfe70, 0xfe7e, 2⟩]

/-- The characters of Pattern_Syntax. -/
def patternSyntax : List Span :=
  [⟨0x21, 0x2f, 1⟩, ⟨0x3a, 0x40, 1⟩, ⟨0x5b, 0x5e, 1⟩, ⟨0x60, 0x60, 1⟩, ⟨0x7b, 0x7e, 1⟩,
   ⟨0xa1, 0xa7, 1⟩, ⟨0xa9, 0xa9, 1⟩, ⟨0xab, 0xac, 1⟩, ⟨0xae, 0xae, 1⟩, ⟨0xb0, 0xb1, 1⟩,
   ⟨0xb6, 0xb6, 1⟩, ⟨0xbb, 0xbb, 1⟩, ⟨0xbf, 0xbf, 1⟩, ⟨0xd7, 0xd7, 1⟩, ⟨0xf7, 0xf7, 1⟩,
   ⟨0x2010, 0x2027, 1⟩, ⟨0x2030, 0x203e, 1⟩, ⟨0x2041, 0x2053, 1⟩, ⟨0x2055, 0x205e, 1⟩,
   ⟨0x2190, 0x245f, 1⟩, ⟨0x2500, 0x2775, 1⟩, ⟨0x2794, 0x2bff, 1⟩, ⟨0x2e00, 0x2e7f, 1⟩,
   ⟨0x3001, 0x3003, 1⟩, ⟨0x3008, 0x3020, 1⟩, ⟨0x3030, 0x3030, 1⟩, ⟨0xfd3e, 0xfd3f, 1⟩,
   ⟨0xfe45, 0xfe46, 1⟩]

/-- The characters of Pattern_White_Space. -/
def patternWhiteSpace : List Span :=
  [⟨0x9, 0xd, 1⟩, ⟨0x20, 0x20, 1⟩, ⟨0x85, 0x85, 1⟩, ⟨0x200e, 0x200f, 1⟩, ⟨0x2028, 0x2029, 1⟩]

end PathEdit.Unicode
