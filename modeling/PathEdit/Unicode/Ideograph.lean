import PathEdit.Unicode.Span

/-! Ideographs and their parts, as of Unicode 16. -/
namespace PathEdit.Unicode

/-- The characters of Ideographic. -/
def ideographic : List Span :=
  [⟨0x3006, 0x3007, 1⟩, ⟨0x3021, 0x3029, 1⟩, ⟨0x3038, 0x303a, 1⟩, ⟨0x3400, 0x4dbf, 1⟩,
   ⟨0x4e00, 0x9fff, 1⟩, ⟨0xf900, 0xfa6d, 1⟩, ⟨0xfa70, 0xfad9, 1⟩, ⟨0x16fe4, 0x16fe4, 1⟩,
   ⟨0x17000, 0x187f7, 1⟩, ⟨0x18800, 0x18cd5, 1⟩, ⟨0x18cff, 0x18d08, 1⟩, ⟨0x1b170, 0x1b2fb, 1⟩,
   ⟨0x20000, 0x2a6df, 1⟩, ⟨0x2a700, 0x2b739, 1⟩, ⟨0x2b740, 0x2b81d, 1⟩, ⟨0x2b820, 0x2cea1, 1⟩,
   ⟨0x2ceb0, 0x2ebe0, 1⟩, ⟨0x2ebf0, 0x2ee5d, 1⟩, ⟨0x2f800, 0x2fa1d, 1⟩, ⟨0x30000, 0x3134a, 1⟩,
   ⟨0x31350, 0x323af, 1⟩]

/-- The characters of Unified_Ideograph. -/
def unifiedIdeograph : List Span :=
  [⟨0x3400, 0x4dbf, 1⟩, ⟨0x4e00, 0x9fff, 1⟩, ⟨0xfa0e, 0xfa0f, 1⟩, ⟨0xfa11, 0xfa11, 1⟩,
   ⟨0xfa13, 0xfa14, 1⟩, ⟨0xfa1f, 0xfa1f, 1⟩, ⟨0xfa21, 0xfa21, 1⟩, ⟨0xfa23, 0xfa24, 1⟩,
   ⟨0xfa27, 0xfa29, 1⟩, ⟨0x20000, 0x2a6df, 1⟩, ⟨0x2a700, 0x2b739, 1⟩, ⟨0x2b740, 0x2b81d, 1⟩,
   ⟨0x2b820, 0x2cea1, 1⟩, ⟨0x2ceb0, 0x2ebe0, 1⟩, ⟨0x2ebf0, 0x2ee5d, 1⟩, ⟨0x30000, 0x3134a, 1⟩,
   ⟨0x31350, 0x323af, 1⟩]

/-- The characters of Radical. -/
def radical : List Span := [⟨0x2e80, 0x2e99, 1⟩, ⟨0x2e9b, 0x2ef3, 1⟩, ⟨0x2f00, 0x2fd5, 1⟩]

/-- The characters of IDS_Unary_Operator. -/
def unaryDescription : List Span := [⟨0x2ffe, 0x2fff, 1⟩]

/-- The characters of IDS_Binary_Operator. -/
def binaryDescription : List Span :=
  [⟨0x2ff0, 0x2ff1, 1⟩, ⟨0x2ff4, 0x2ffd, 1⟩, ⟨0x31ef, 0x31ef, 1⟩]

/-- The characters of IDS_Trinary_Operator. -/
def trinaryDescription : List Span := [⟨0x2ff2, 0x2ff3, 1⟩]

end PathEdit.Unicode
