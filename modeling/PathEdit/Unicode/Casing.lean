import PathEdit.Unicode.Span

/-! Characters whose case mappings differ from their simple case folding. -/
namespace PathEdit.Unicode

/-- Letters that change in capitals although no capital is folded to them. -/
def unpairedSmall : List Span :=
  [⟨0x131, 0x131, 1⟩, ⟨0x149, 0x149, 1⟩, ⟨0x1f0, 0x1f0, 1⟩, ⟨0x390, 0x390, 1⟩, ⟨0x3b0, 0x3b0, 1⟩,
   ⟨0x587, 0x587, 1⟩, ⟨0x1e96, 0x1e9a, 1⟩, ⟨0x1f50, 0x1f56, 2⟩, ⟨0x1fb2, 0x1fb2, 1⟩,
   ⟨0x1fb4, 0x1fb4, 1⟩, ⟨0x1fb6, 0x1fb7, 1⟩, ⟨0x1fc2, 0x1fc2, 1⟩, ⟨0x1fc4, 0x1fc4, 1⟩,
   ⟨0x1fc6, 0x1fc7, 1⟩, ⟨0x1fd2, 0x1fd3, 1⟩, ⟨0x1fd6, 0x1fd7, 1⟩, ⟨0x1fe2, 0x1fe4, 1⟩,
   ⟨0x1fe6, 0x1fe7, 1⟩, ⟨0x1ff2, 0x1ff2, 1⟩, ⟨0x1ff4, 0x1ff4, 1⟩, ⟨0x1ff6, 0x1ff7, 1⟩,
   ⟨0xfb00, 0xfb06, 1⟩, ⟨0xfb13, 0xfb17, 1⟩]

/-- Characters that only a mapping to several characters folds. -/
def foldedInFull : List Span :=
  [⟨0xdf, 0xdf, 1⟩, ⟨0x130, 0x130, 1⟩, ⟨0x149, 0x149, 1⟩, ⟨0x587, 0x587, 1⟩, ⟨0x1e9a, 0x1e9a, 1⟩,
   ⟨0x1f80, 0x1f87, 1⟩, ⟨0x1f90, 0x1f97, 1⟩, ⟨0x1fa0, 0x1fa7, 1⟩, ⟨0x1fb2, 0x1fb4, 1⟩,
   ⟨0x1fb7, 0x1fb7, 1⟩, ⟨0x1fc2, 0x1fc4, 1⟩, ⟨0x1fc7, 0x1fc7, 1⟩, ⟨0x1ff2, 0x1ff4, 1⟩,
   ⟨0x1ff7, 0x1ff7, 1⟩, ⟨0xfb00, 0xfb06, 1⟩, ⟨0xfb13, 0xfb17, 1⟩]

/-- The small letters of Georgian, which stay small at the beginning of a title. -/
def georgianSmall : List Span := [⟨0x10d0, 0x10fa, 1⟩, ⟨0x10fd, 0x10ff, 1⟩]

/-- The capitals of Georgian, which begin neither a title nor a sentence. -/
def georgianCapital : List Span := [⟨0x1c90, 0x1cba, 1⟩, ⟨0x1cbd, 0x1cbf, 1⟩]

/-- Capital digraphs, whose second part becomes small in a title. -/
def capitalDigraph : List Span :=
  [⟨0x1c4, 0x1c4, 1⟩, ⟨0x1c7, 0x1c7, 1⟩, ⟨0x1ca, 0x1ca, 1⟩, ⟨0x1f1, 0x1f1, 1⟩]

/-- Capitals to which small letters are folded. -/
def foldingCapital : List Span := [⟨0x13a0, 0x13f5, 1⟩]

end PathEdit.Unicode
