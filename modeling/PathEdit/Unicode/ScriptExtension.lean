import PathEdit.Unicode.Span

/-! The characters that several scripts use, or another one than their own. -/
namespace PathEdit.Unicode

/-- Characters that exactly the scripts with the given codes use. -/
structure ScriptExtension where
  codes : List String
  spans : List Span

/-- All characters whose scripts are listed. -/
def scriptExtensions : List ScriptExtension :=
  [⟨["grek"], [⟨0x342, 0x342, 1⟩, ⟨0x345, 0x345, 1⟩, ⟨0x1dc0, 0x1dc1, 1⟩]⟩,
   ⟨["latn"], [⟨0x363, 0x36f, 1⟩]⟩,
   ⟨["cyrl", "perm"], [⟨0x483, 0x483, 1⟩]⟩,
   ⟨["cyrl", "glag"],
    [⟨0x484, 0x484, 1⟩, ⟨0x487, 0x487, 1⟩, ⟨0x2e43, 0x2e43, 1⟩, ⟨0xa66f, 0xa66f, 1⟩]⟩,
   ⟨["cyrl", "latn"], [⟨0x485, 0x486, 1⟩]⟩,
   ⟨["arab", "nkoo", "rohg", "syrc", "thaa", "yezi"], [⟨0x60c, 0x60c, 1⟩, ⟨0x61b, 0x61b, 1⟩]⟩,
   ⟨["arab", "syrc", "thaa"], [⟨0x61c, 0x61c, 1⟩]⟩,
   ⟨["adlm", "arab", "nkoo", "rohg", "syrc", "thaa", "yezi"], [⟨0x61f, 0x61f, 1⟩]⟩,
   ⟨["adlm", "arab", "mand", "mani", "ougr", "phlp", "rohg", "sogd", "syrc"],
    [⟨0x640, 0x640, 1⟩]⟩,
   ⟨["arab", "syrc"], [⟨0x64b, 0x655, 1⟩, ⟨0x670, 0x670, 1⟩]⟩,
   ⟨["arab", "thaa", "yezi"], [⟨0x660, 0x669, 1⟩]⟩,
   ⟨["arab", "rohg"], [⟨0x6d4, 0x6d4, 1⟩]⟩,
   ⟨["beng", "deva", "gran", "gujr", "guru", "knda", "latn", "mlym", "orya", "shrd", "taml",
     "telu", "tirh"],
    [⟨0x951, 0x951, 1⟩]⟩,
   ⟨["beng", "deva", "gran", "gujr", "guru", "knda", "latn", "mlym", "orya", "taml", "telu",
     "tirh"],
    [⟨0x952, 0x952, 1⟩]⟩,
   ⟨["beng", "deva", "dogr", "gong", "gonm", "gran", "gujr", "guru", "knda", "mahj", "mlym",
     "nand", "orya", "sind", "sinh", "sylo", "takr", "taml", "telu", "tirh"],
    [⟨0x964, 0x964, 1⟩]⟩,
   ⟨["beng", "deva", "dogr", "gong", "gonm", "gran", "gujr", "guru", "knda", "limb", "mahj",
     "mlym", "nand", "orya", "sind", "sinh", "sylo", "takr", "taml", "telu", "tirh"],
    [⟨0x965, 0x965, 1⟩]⟩,
   ⟨["deva", "dogr", "kthi", "mahj"], [⟨0x966, 0x96f, 1⟩]⟩,
   ⟨["beng", "cakm", "sylo"], [⟨0x9e6, 0x9ef, 1⟩]⟩,
   ⟨["guru", "mult"], [⟨0xa66, 0xa6f, 1⟩]⟩,
   ⟨["gujr", "khoj"], [⟨0xae6, 0xaef, 1⟩]⟩,
   ⟨["gran", "taml"],
    [⟨0xbe6, 0xbf3, 1⟩, ⟨0x11301, 0x11301, 1⟩, ⟨0x11303, 0x11303, 1⟩, ⟨0x1133b, 0x1133c, 1⟩,
     ⟨0x11fd0, 0x11fd1, 1⟩, ⟨0x11fd3, 0x11fd3, 1⟩]⟩,
   ⟨["knda", "nand"], [⟨0xce6, 0xcef, 1⟩]⟩,
   ⟨["cakm", "mymr", "tale"], [⟨0x1040, 0x1049, 1⟩]⟩,
   ⟨["geor", "latn"], [⟨0x10fb, 0x10fb, 1⟩]⟩,
   ⟨["buhd", "hano", "tagb", "tglg"], [⟨0x1735, 0x1736, 1⟩]⟩,
   ⟨["mong", "phag"], [⟨0x1802, 0x1803, 1⟩, ⟨0x1805, 0x1805, 1⟩]⟩,
   ⟨["beng", "deva", "gran", "knda"], [⟨0x1cd0, 0x1cd0, 1⟩, ⟨0x1cd2, 0x1cd2, 1⟩]⟩,
   ⟨["deva"],
    [⟨0x1cd1, 0x1cd1, 1⟩, ⟨0x1cd4, 0x1cd4, 1⟩, ⟨0x1cdb, 0x1cdb, 1⟩, ⟨0x1cde, 0x1cdf, 1⟩,
     ⟨0x1ce2, 0x1ce8, 1⟩, ⟨0x1ceb, 0x1cec, 1⟩, ⟨0x1cee, 0x1cf1, 1⟩]⟩,
   ⟨["deva", "gran"], [⟨0x1cd3, 0x1cd3, 1⟩, ⟨0x1cf3, 0x1cf3, 1⟩, ⟨0x1cf8, 0x1cf9, 1⟩]⟩,
   ⟨["beng", "deva"],
    [⟨0x1cd5, 0x1cd6, 1⟩, ⟨0x1cd8, 0x1cd8, 1⟩, ⟨0x1ce1, 0x1ce1, 1⟩, ⟨0x1cea, 0x1cea, 1⟩,
     ⟨0x1ced, 0x1ced, 1⟩, ⟨0x1cf5, 0x1cf6, 1⟩, ⟨0xa8f1, 0xa8f1, 1⟩]⟩,
   ⟨["deva", "shrd"],
    [⟨0x1cd7, 0x1cd7, 1⟩, ⟨0x1cd9, 0x1cd9, 1⟩, ⟨0x1cdc, 0x1cdd, 1⟩, ⟨0x1ce0, 0x1ce0, 1⟩]⟩,
   ⟨["deva", "knda", "mlym", "orya", "taml", "telu"], [⟨0x1cda, 0x1cda, 1⟩]⟩,
   ⟨["deva", "nand"], [⟨0x1ce9, 0x1ce9, 1⟩]⟩,
   ⟨["beng", "deva", "gran", "knda", "nand", "orya", "telu", "tirh"], [⟨0x1cf2, 0x1cf2, 1⟩]⟩,
   ⟨["deva", "gran", "knda"], [⟨0x1cf4, 0x1cf4, 1⟩]⟩,
   ⟨["beng"], [⟨0x1cf7, 0x1cf7, 1⟩]⟩,
   ⟨["nand"], [⟨0x1cfa, 0x1cfa, 1⟩]⟩,
   ⟨["cyrl", "syrc"], [⟨0x1df8, 0x1df8, 1⟩]⟩,
   ⟨["syrc"], [⟨0x1dfa, 0x1dfa, 1⟩]⟩,
   ⟨["latn", "mong"], [⟨0x202f, 0x202f, 1⟩]⟩,
   ⟨["deva", "gran", "latn"], [⟨0x20f0, 0x20f0, 1⟩]⟩,
   ⟨["bopo", "hang", "hani", "hira", "kana", "yiii"],
    [⟨0x3001, 0x3002, 1⟩, ⟨0x3008, 0x3011, 1⟩, ⟨0x3014, 0x301b, 1⟩, ⟨0x30fb, 0x30fb, 1⟩,
     ⟨0xff61, 0xff65, 1⟩]⟩,
   ⟨["bopo", "hang", "hani", "hira", "kana"],
    [⟨0x3003, 0x3003, 1⟩, ⟨0x3013, 0x3013, 1⟩, ⟨0x301c, 0x301f, 1⟩, ⟨0x3030, 0x3030, 1⟩,
     ⟨0x3037, 0x3037, 1⟩, ⟨0xfe45, 0xfe46, 1⟩]⟩,
   ⟨["hani"],
    [⟨0x3006, 0x3006, 1⟩, ⟨0x303e, 0x303f, 1⟩, ⟨0x3190, 0x319f, 1⟩, ⟨0x31c0, 0x31e3, 1⟩,
     ⟨0x3220, 0x3247, 1⟩, ⟨0x3280, 0x32b0, 1⟩, ⟨0x32c0, 0x32cb, 1⟩, ⟨0x32ff, 0x32ff, 1⟩,
     ⟨0x3358, 0x3370, 1⟩, ⟨0x337b, 0x337f, 1⟩, ⟨0x33e0, 0x33fe, 1⟩, ⟨0x1d360, 0x1d371, 1⟩,
     ⟨0x1f250, 0x1f251, 1⟩]⟩,
   ⟨["bopo", "hani"], [⟨0x302a, 0x302d, 1⟩]⟩,
   ⟨["hira", "kana"],
    [⟨0x3031, 0x3035, 1⟩, ⟨0x3099, 0x309c, 1⟩, ⟨0x30a0, 0x30a0, 1⟩, ⟨0x30fc, 0x30fc, 1⟩,
     ⟨0xff70, 0xff70, 1⟩, ⟨0xff9e, 0xff9f, 1⟩]⟩,
   ⟨["hani", "hira", "kana"], [⟨0x303c, 0x303d, 1⟩]⟩,
   ⟨["hani", "latn"], [⟨0xa700, 0xa707, 1⟩]⟩,
   ⟨["deva", "dogr", "gujr", "guru", "khoj", "knda", "kthi", "mahj", "mlym", "modi", "nand",
     "sind", "takr", "tirh"],
    [⟨0xa830, 0xa832, 1⟩]⟩,
   ⟨["deva", "dogr", "gujr", "guru", "khoj", "knda", "kthi", "mahj", "modi", "nand", "sind",
     "takr", "tirh"],
    [⟨0xa833, 0xa835, 1⟩]⟩,
   ⟨["deva", "dogr", "gujr", "guru", "khoj", "kthi", "mahj", "modi", "sind", "takr", "tirh"],
    [⟨0xa836, 0xa839, 1⟩]⟩,
   ⟨["deva", "taml"], [⟨0xa8f3, 0xa8f3, 1⟩]⟩,
   ⟨["kali", "latn", "mymr"], [⟨0xa92e, 0xa92e, 1⟩]⟩,
   ⟨["bugi", "java"], [⟨0xa9cf, 0xa9cf, 1⟩]⟩,
   ⟨["arab", "nkoo"], [⟨0xfd3e, 0xfd3f, 1⟩]⟩,
   ⟨["arab", "thaa"], [⟨0xfdf2, 0xfdf2, 1⟩, ⟨0xfdfd, 0xfdfd, 1⟩]⟩,
   ⟨["cpmn", "cprt", "linb"], [⟨0x10100, 0x10101, 1⟩]⟩,
   ⟨["cprt", "linb"], [⟨0x10102, 0x10102, 1⟩, ⟨0x10137, 0x1013f, 1⟩]⟩,
   ⟨["cprt", "lina", "linb"], [⟨0x10107, 0x10133, 1⟩]⟩,
   ⟨["arab", "copt"], [⟨0x102e0, 0x102fb, 1⟩]⟩,
   ⟨["mani", "ougr"], [⟨0x10af2, 0x10af2, 1⟩]⟩,
   ⟨["dupl"], [⟨0x1bca0, 0x1bca3, 1⟩]⟩]

end PathEdit.Unicode
