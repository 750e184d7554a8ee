import PathEdit.Unicode.Span

/-! Characters of mathematics beyond its symbols, as of Unicode 16. -/
namespace PathEdit.Unicode

/-- The characters of Other_Math. -/
def otherMath : List Span :=
  [⟨0x5e, 0x5e, 1⟩, ⟨0x3d0, 0x3d2, 1⟩, ⟨0x3d5, 0x3d5, 1⟩, ⟨0x3f0, 0x3f1, 1⟩, ⟨0x3f4, 0x3f5, 1⟩,
   ⟨0x2016, 0x2016, 1⟩, ⟨0x2032, 0x2034, 1⟩, ⟨0x2040, 0x2040, 1⟩, ⟨0x2061, 0x2064, 1⟩,
   ⟨0x207d, 0x207e, 1⟩, ⟨0x208d, 0x208e, 1⟩, ⟨0x20d0, 0x20dc, 1⟩, ⟨0x20e1, 0x20e1, 1⟩,
   ⟨0x20e5, 0x20e6, 1⟩, ⟨0x20eb, 0x20ef, 1⟩, ⟨0x2102, 0x2102, 1⟩, ⟨0x2107, 0x2107, 1⟩,
   ⟨0x210a, 0x2113, 1⟩, ⟨0x2115, 0x2115, 1⟩, ⟨0x2119, 0x211d, 1⟩, ⟨0x2124, 0x2124, 1⟩,
   ⟨0x2128, 0x2129, 1⟩, ⟨0x212c, 0x212d, 1⟩, ⟨0x212f, 0x2131, 1⟩, ⟨0x2133, 0x2138, 1⟩,
   ⟨0x213c, 0x213f, 1⟩, ⟨0x2145, 0x2149, 1⟩, ⟨0x2195, 0x2199, 1⟩, ⟨0x219c, 0x219f, 1⟩,
   ⟨0x21a1, 0x21a2, 1⟩, ⟨0x21a4, 0x21a5, 1⟩, ⟨0x21a7, 0x21a7, 1⟩, ⟨0x21a9, 0x21ad, 1⟩,
   ⟨0x21b0, 0x21b1, 1⟩, ⟨0x21b6, 0x21b7, 1⟩, ⟨0x21bc, 0x21cd, 1⟩, ⟨0x21d0, 0x21d1, 1⟩,
   ⟨0x21d3, 0x21d3, 1⟩, ⟨0x21d5, 0x21db, 1⟩, ⟨0x21dd, 0x21dd, 1⟩, ⟨0x21e4, 0x21e5, 1⟩,
   ⟨0x2308, 0x230b, 1⟩, ⟨0x23b4, 0x23b5, 1⟩, ⟨0x23b7, 0x23b7, 1⟩, ⟨0x23d0, 0x23d0, 1⟩,
   ⟨0x23e2, 0x23e2, 1⟩, ⟨0x25a0, 0x25a1, 1⟩, ⟨0x25ae, 0x25b6, 1⟩, ⟨0x25bc, 0x25c0, 1⟩,
   ⟨0x25c6, 0x25c7, 1⟩, ⟨0x25ca, 0x25cb, 1⟩, ⟨0x25cf, 0x25d3, 1⟩, ⟨0x25e2, 0x25e2, 1⟩,
   ⟨0x25e4, 0x25e4, 1⟩, ⟨0x25e7, 0x25ec, 1⟩, ⟨0x2605, 0x2606, 1⟩, ⟨0x2640, 0x2640, 1⟩,
   ⟨0x2642, 0x2642, 1⟩, ⟨0x2660, 0x2663, 1⟩, ⟨0x266d, 0x266e, 1⟩, ⟨0x27c5, 0x27c6, 1⟩,
   ⟨0x27e6, 0x27ef, 1⟩, ⟨0x2983, 0x2998, 1⟩, ⟨0x29d8, 0x29db, 1⟩, ⟨0x29fc, 0x29fd, 1⟩,
   ⟨0xfe61, 0xfe61, 1⟩, ⟨0xfe63, 0xfe63, 1⟩, ⟨0xfe68, 0xfe68, 1⟩, ⟨0xff3c, 0xff3c, 1⟩,
   ⟨0xff3e, 0xff3e, 1⟩, ⟨0x1d400, 0x1d454, 1⟩, ⟨0x1d456, 0x1d49c, 1⟩, ⟨0x1d49e, 0x1d49f, 1⟩,
   ⟨0x1d4a2, 0x1d4a2, 1⟩, ⟨0x1d4a5, 0x1d4a6, 1⟩, ⟨0x1d4a9, 0x1d4ac, 1⟩, ⟨0x1d4ae, 0x1d4b9, 1⟩,
   ⟨0x1d4bb, 0x1d4bb, 1⟩, ⟨0x1d4bd, 0x1d4c3, 1⟩, ⟨0x1d4c5, 0x1d505, 1⟩, ⟨0x1d507, 0x1d50a, 1⟩,
   ⟨0x1d50d, 0x1d514, 1⟩, ⟨0x1d516, 0x1d51c, 1⟩, ⟨0x1d51e, 0x1d539, 1⟩, ⟨0x1d53b, 0x1d53e, 1⟩,
   ⟨0x1d540, 0x1d544, 1⟩, ⟨0x1d546, 0x1d546, 1⟩, ⟨0x1d54a, 0x1d550, 1⟩, ⟨0x1d552, 0x1d6a5, 1⟩,
   ⟨0x1d6a8, 0x1d6c0, 1⟩, ⟨0x1d6c2, 0x1d6da, 1⟩, ⟨0x1d6dc, 0x1d6fa, 1⟩, ⟨0x1d6fc, 0x1d714, 1⟩,
   ⟨0x1d716, 0x1d734, 1⟩, ⟨0x1d736, 0x1d74e, 1⟩, ⟨0x1d750, 0x1d76e, 1⟩, ⟨0x1d770, 0x1d788, 1⟩,
   ⟨0x1d78a, 0x1d7a8, 1⟩, ⟨0x1d7aa, 0x1d7c2, 1⟩, ⟨0x1d7c4, 0x1d7cb, 1⟩, ⟨0x1d7ce, 0x1d7ff, 1⟩,
   ⟨0x1ee00, 0x1ee03, 1⟩, ⟨0x1ee05, 0x1ee1f, 1⟩, ⟨0x1ee21, 0x1ee22, 1⟩, ⟨0x1ee24, 0x1ee24, 1⟩,
   ⟨0x1ee27, 0x1ee27, 1⟩, ⟨0x1ee29, 0x1ee32, 1⟩, ⟨0x1ee34, 0x1ee37, 1⟩, ⟨0x1ee39, 0x1ee39, 1⟩,
   ⟨0x1ee3b, 0x1ee3b, 1⟩, ⟨0x1ee42, 0x1ee42, 1⟩, ⟨0x1ee47, 0x1ee4b, 2⟩, ⟨0x1ee4d, 0x1ee4f, 1⟩,
   ⟨0x1ee51, 0x1ee52, 1⟩, ⟨0x1ee54, 0x1ee54, 1⟩, ⟨0x1ee57, 0x1ee5f, 2⟩, ⟨0x1ee61, 0x1ee62, 1⟩,
   ⟨0x1ee64, 0x1ee64, 1⟩, ⟨0x1ee67, 0x1ee6a, 1⟩, ⟨0x1ee6c, 0x1ee72, 1⟩, ⟨0x1ee74, 0x1ee77, 1⟩,
   ⟨0x1ee79, 0x1ee7c, 1⟩, ⟨0x1ee7e, 0x1ee7e, 1⟩, ⟨0x1ee80, 0x1ee89, 1⟩, ⟨0x1ee8b, 0x1ee9b, 1⟩,
   ⟨0x1eea1, 0x1eea3, 1⟩, ⟨0x1eea5, 0x1eea9, 1⟩, ⟨0x1eeab, 0x1eebb, 1⟩]

/-- The characters of ID_Compat_Math_Start. -/
def mathIdStart : List Span :=
  [⟨0x2202, 0x2202, 1⟩, ⟨0x2207, 0x2207, 1⟩, ⟨0x221e, 0x221e, 1⟩, ⟨0x1d6c1, 0x1d6c1, 1⟩,
   ⟨0x1d6db, 0x1d6db, 1⟩, ⟨0x1d6fb, 0x1d6fb, 1⟩, ⟨0x1d715, 0x1d715, 1⟩, ⟨0x1d735, 0x1d735, 1⟩,
   ⟨0x1d74f, 0x1d74f, 1⟩, ⟨0x1d76f, 0x1d76f, 1⟩, ⟨0x1d789, 0x1d789, 1⟩, ⟨0x1d7a9, 0x1d7a9, 1⟩,
   ⟨0x1d7c3, 0x1d7c3, 1⟩]

/-- The further characters of ID_Compat_Math_Continue. -/
def mathIdContinue : List Span :=
  [⟨0xb2, 0xb3, 1⟩, ⟨0xb9, 0xb9, 1⟩, ⟨0x2070, 0x2070, 1⟩, ⟨0x2074, 0x207e, 1⟩,
   ⟨0x2080, 0x208e, 1⟩]

end PathEdit.Unicode
