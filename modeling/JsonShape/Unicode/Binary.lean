import JsonShape.Unicode.Basic

/-!
# Small binary properties

The binary properties of characters that few ranges make up, with their names in the form in which
names are compared.
-/

namespace JsonShape.Unicode

/-- A binary property: its names and the characters that have it. -/
structure BinaryProperty where
  names : List String
  table : Table

/-- The property Bidi Control. -/
def bidiControlProperty : BinaryProperty where
  names := ["bidicontrol", "bidic"]
  table :=
    [(0x61c, 0x61c, 1), (0x200e, 0x200f, 1), (0x202a, 0x202e, 1), (0x2066, 0x2069, 1)]

/-- The property Dash. -/
def dashProperty : BinaryProperty where
  names := ["dash"]
  table :=
    [(0x2d, 0x2d, 1), (0x58a, 0x58a, 1), (0x5be, 0x5be, 1), (0x1400, 0x1400, 1),
     (0x1806, 0x1806, 1), (0x2010, 0x2015, 1), (0x2053, 0x2053, 1), (0x207b, 0x207b, 1),
     (0x208b, 0x208b, 1), (0x2212, 0x2212, 1), (0x2e17, 0x2e17, 1), (0x2e1a, 0x2e1a, 1),
     (0x2e3a, 0x2e3b, 1), (0x2e40, 0x2e40, 1), (0x2e5d, 0x2e5d, 1), (0x301c, 0x301c, 1),
     (0x3030, 0x3030, 1), (0x30a0, 0x30a0, 1), (0xfe31, 0xfe32, 1), (0xfe58, 0xfe58, 1),
     (0xfe63, 0xfe63, 1), (0xff0d, 0xff0d, 1), (0x10d6e, 0x10d6e, 1), (0x10ead, 0x10ead, 1)]

/-- The property Default Ignorable Code Point. -/
def defaultIgnorableProperty : BinaryProperty where
  names := ["defaultignorablecodepoint", "di"]
  table :=
    [(0xad, 0xad, 1), (0x34f, 0x34f, 1), (0x61c, 0x61c, 1), (0x115f, 0x1160, 1),
     (0x17b4, 0x17b5, 1), (0x180b, 0x180f, 1), (0x200b, 0x200f, 1), (0x202a, 0x202e, 1),
     (0x2060, 0x206f, 1), (0x3164, 0x3164, 1), (0xfe00, 0xfe0f, 1), (0xfeff, 0xfeff, 1),
     (0xffa0, 0xffa0, 1), (0xfff0, 0xfff8, 1), (0x1bca0, 0x1bca3, 1), (0x1d173, 0x1d17a, 1),
     (0xe0000, 0xe0fff, 1)]

/-- The property Deprecated. -/
def deprecatedProperty : BinaryProperty where
  names := ["deprecated", "dep"]
  table :=
    [(0x149, 0x149, 1), (0x673, 0x673, 1), (0xf77, 0xf79, 2), (0x17a3, 0x17a4, 1),
     (0x206a, 0x206f, 1), (0x2329, 0x232a, 1), (0xe0001, 0xe0001, 1)]

/-- The property Emoji Component. -/
def emojiComponentProperty : BinaryProperty where
  names := ["emojicomponent", "ecomp"]
  table :=
    [(0x23, 0x23, 1), (0x2a, 0x2a, 1), (0x30, 0x39, 1), (0x200d, 0x200d, 1), (0x20e3, 0x20e3, 1),
     (0xfe0f, 0xfe0f, 1), (0x1f1e6, 0x1f1ff, 1), (0x1f3fb, 0x1f3ff, 1), (0x1f9b0, 0x1f9b3, 1),
     (0xe0020, 0xe007f, 1)]

/-- The property Emoji Modifier. -/
def emojiModifierProperty : BinaryProperty where
  names := ["emojimodifier", "emod"]
  table :=
    [(0x1f3fb, 0x1f3ff, 1)]

/-- The property Emoji Modifier Base. -/
def emojiModifierBaseProperty : BinaryProperty where
  names := ["emojimodifierbase", "ebase"]
  table :=
    [(0x261d, 0x261d, 1), (0x26f9, 0x26f9, 1), (0x270a, 0x270d, 1), (0x1f385, 0x1f385, 1),
     (0x1f3c2, 0x1f3c4, 1), (0x1f3c7, 0x1f3c7, 1), (0x1f3ca, 0x1f3cc, 1), (0x1f442, 0x1f443, 1),
     (0x1f446, 0x1f450, 1), (0x1f466, 0x1f478, 1), (0x1f47c, 0x1f47c, 1), (0x1f481, 0x1f483, 1),
     (0x1f485, 0x1f487, 1), (0x1f48f, 0x1f491, 2), (0x1f4aa, 0x1f4aa, 1), (0x1f574, 0x1f575, 1),
     (0x1f57a, 0x1f57a, 1), (0x1f590, 0x1f590, 1), (0x1f595, 0x1f596, 1), (0x1f645, 0x1f647, 1),
     (0x1f64b, 0x1f64f, 1), (0x1f6a3, 0x1f6a3, 1), (0x1f6b4, 0x1f6b6, 1), (0x1f6c0, 0x1f6c0, 1),
     (0x1f6cc, 0x1f6cc, 1), (0x1f90c, 0x1f90c, 1), (0x1f90f, 0x1f90f, 1), (0x1f918, 0x1f91f, 1),
     (0x1f926, 0x1f926, 1), (0x1f930, 0x1f939, 1), (0x1f93c, 0x1f93e, 1), (0x1f977, 0x1f977, 1),
     (0x1f9b5, 0x1f9b6, 1), (0x1f9b8, 0x1f9b9, 1), (0x1f9bb, 0x1f9bb, 1), (0x1f9cd, 0x1f9cf, 1),
     (0x1f9d1, 0x1f9dd, 1), (0x1fac3, 0x1fac5, 1), (0x1faf0, 0x1faf8, 1)]

/-- The property Extender. -/
def extenderProperty : BinaryProperty where
  names := ["extender", "ext"]
  table :=
    [(0xb7, 0xb7, 1), (0x2d0, 0x2d1, 1), (0x640, 0x640, 1), (0x7fa, 0x7fa, 1), (0xa71, 0xa71, 1),
     (0xafb, 0xafb, 1), (0xb55, 0xb55, 1), (0xe46, 0xe46, 1), (0xec6, 0xec6, 1),
     (0x180a, 0x180a, 1), (0x1843, 0x1843, 1), (0x1aa7, 0x1aa7, 1), (0x1c36, 0x1c36, 1),
     (0x1c7b, 0x1c7b, 1), (0x3005, 0x3005, 1), (0x3031, 0x3035, 1), (0x309d, 0x309e, 1),
     (0x30fc, 0x30fe, 1), (0xa015, 0xa015, 1), (0xa60c, 0xa60c, 1), (0xa9cf, 0xa9cf, 1),
     (0xa9e6, 0xa9e6, 1), (0xaa70, 0xaa70, 1), (0xaadd, 0xaadd, 1), (0xaaf3, 0xaaf4, 1),
     (0xff70, 0xff70, 1), (0x10781, 0x10782, 1), (0x10d4e, 0x10d4e, 1), (0x10d6a, 0x10d6a, 1),
     (0x10d6f, 0x10d6f, 1), (0x11237, 0x11237, 1), (0x1135d, 0x1135d, 1), (0x113d2, 0x113d3, 1),
     (0x115c6, 0x115c8, 1), (0x11a98, 0x11a98, 1), (0x16b42, 0x16b43, 1), (0x16fe0, 0x16fe1, 1),
     (0x16fe3, 0x16fe3, 1), (0x1e13c, 0x1e13d, 1), (0x1e5ef, 0x1e5ef, 1), (0x1e944, 0x1e946, 1)]

/-- The property Hex Digit. -/
def hexDigitProperty : BinaryProperty where
  names := ["hexdigit", "hex"]
  table :=
    [(0x30, 0x39, 1), (0x41, 0x46, 1), (0x61, 0x66, 1), (0xff10, 0xff19, 1), (0xff21, 0xff26, 1),
     (0xff41, 0xff46, 1)]

/-- The property IDS Binary Operator. -/
def idsBinaryProperty : BinaryProperty where
  names := ["idsbinaryoperator", "idsb"]
  table :=
    [(0x2ff0, 0x2ff1, 1), (0x2ff4, 0x2ffd, 1), (0x31ef, 0x31ef, 1)]

/-- The property IDS Trinary Operator. -/
def idsTrinaryProperty : BinaryProperty where
  names := ["idstrinaryoperator", "idst"]
  table :=
    [(0x2ff2, 0x2ff3, 1)]

/-- The property Ideographic. -/
def ideographicProperty : BinaryProperty where
  names := ["ideographic", "ideo"]
  table :=
    [(0x3006, 0x3007, 1), (0x3021, 0x3029, 1), (0x3038, 0x303a, 1), (0x3400, 0x4dbf, 1),
     (0x4e00, 0x9fff, 1), (0xf900, 0xfa6d, 1), (0xfa70, 0xfad9, 1), (0x16fe4, 0x16fe4, 1),
     (0x17000, 0x187f7, 1), (0x18800, 0x18cd5, 1), (0x18cff, 0x18d08, 1), (0x1b170, 0x1b2fb, 1),
     (0x20000, 0x2a6df, 1), (0x2a700, 0x2b739, 1), (0x2b740, 0x2b81d, 1), (0x2b820, 0x2cea1, 1),
     (0x2ceb0, 0x2ebe0, 1), (0x2ebf0, 0x2ee5d, 1), (0x2f800, 0x2fa1d, 1), (0x30000, 0x3134a, 1),
     (0x31350, 0x323af, 1)]

/-- The property Join Control. -/
def joinControlProperty : BinaryProperty where
  names := ["joincontrol", "joinc"]
  table :=
    [(0x200c, 0x200d, 1)]

/-- The property Logical Order Exception. -/
def logicalOrderExceptionProperty : BinaryProperty where
  names := ["logicalorderexception", "loe"]
  table :=
    [(0xe40, 0xe44, 1), (0xec0, 0xec4, 1), (0x19b5, 0x19b7, 1), (0x19ba, 0x19ba, 1),
     (0xaab5, 0xaab6, 1), (0xaab9, 0xaab9, 1), (0xaabb, 0xaabc, 1)]

/-- The property Noncharacter Code Point. -/
def noncharacterProperty : BinaryProperty where
  names := ["noncharactercodepoint", "nchar"]
  table :=
    [(0xfdd0, 0xfdef, 1), (0xfffe, 0xffff, 1), (0x1fffe, 0x1ffff, 1), (0x2fffe, 0x2ffff, 1),
     (0x3fffe, 0x3ffff, 1), (0x4fffe, 0x4ffff, 1), (0x5fffe, 0x5ffff, 1), (0x6fffe, 0x6ffff, 1),
     (0x7fffe, 0x7ffff, 1), (0x8fffe, 0x8ffff, 1), (0x9fffe, 0x9ffff, 1), (0xafffe, 0xaffff, 1),
     (0xbfffe, 0xbffff, 1), (0xcfffe, 0xcffff, 1), (0xdfffe, 0xdffff, 1), (0xefffe, 0xeffff, 1),
     (0xffffe, 0xfffff, 1), (0x10fffe, 0x10ffff, 1)]

/-- The property Pattern Syntax. -/
def patternSyntaxProperty : BinaryProperty where
  names := ["patternsyntax", "patsyn"]
  table :=
    [(0x21, 0x2f, 1), (0x3a, 0x40, 1), (0x5b, 0x5e, 1), (0x60, 0x60, 1), (0x7b, 0x7e, 1),
     (0xa1, 0xa7, 1), (0xa9, 0xa9, 1), (0xab, 0xac, 1), (0xae, 0xae, 1), (0xb0, 0xb1, 1),
     (0xb6, 0xb6, 1), (0xbb, 0xbb, 1), (0xbf, 0xbf, 1), (0xd7, 0xd7, 1), (0xf7, 0xf7, 1),
     (0x2010, 0x2027, 1), (0x2030, 0x203e, 1), (0x2041, 0x2053, 1), (0x2055, 0x205e, 1),
     (0x2190, 0x245f, 1), (0x2500, 0x2775, 1), (0x2794, 0x2b95, 1), (0x2b97, 0x2bff, 1),
     (0x2e00, 0x2e7f, 1), (0x3001, 0x3003, 1), (0x3008, 0x3020, 1), (0x3030, 0x3030, 1),
     (0xfd3e, 0xfd3f, 1), (0xfe45, 0xfe46, 1)]

/-- The property Pattern White Space. -/
def patternWhiteSpaceProperty : BinaryProperty where
  names := ["patternwhitespace", "patws"]
  table :=
    [(0x9, 0xd, 1), (0x20, 0x20, 1), (0x85, 0x85, 1), (0x200e, 0x200f, 1), (0x2028, 0x2029, 1)]

/-- The property Quotation Mark. -/
def quotationMarkProperty : BinaryProperty where
  names := ["quotationmark", "qmark"]
  table :=
    [(0x22, 0x22, 1), (0x27, 0x27, 1), (0xab, 0xab, 1), (0xbb, 0xbb, 1), (0x2018, 0x201f, 1),
     (0x2039, 0x203a, 1), (0x2e42, 0x2e42, 1), (0x300c, 0x300f, 1), (0x301d, 0x301f, 1),
     (0xfe41, 0xfe44, 1), (0xff02, 0xff02, 1), (0xff07, 0xff07, 1), (0xff62, 0xff63, 1)]

/-- The property Radical. -/
def radicalProperty : BinaryProperty where
  names := ["radical"]
  table :=
    [(0x2e80, 0x2e99, 1), (0x2e9b, 0x2ef3, 1), (0x2f00, 0x2fd5, 1)]

/-- The property Regional Indicator. -/
def regionalIndicatorProperty : BinaryProperty where
  names := ["regionalindicator", "ri"]
  table :=
    [(0x1f1e6, 0x1f1ff, 1)]

/-- The property Soft Dotted. -/
def softDottedProperty : BinaryProperty where
  names := ["softdotted", "sd"]
  table :=
    [(0x69, 0x6a, 1), (0x12f, 0x12f, 1), (0x249, 0x249, 1), (0x268, 0x268, 1), (0x29d, 0x29d, 1),
     (0x2b2, 0x2b2, 1), (0x3f3, 0x3f3, 1), (0x456, 0x458, 2), (0x1d62, 0x1d62, 1),
     (0x1d96, 0x1d96, 1), (0x1da4, 0x1da4, 1), (0x1da8, 0x1da8, 1), (0x1e2d, 0x1e2d, 1),
     (0x1ecb, 0x1ecb, 1), (0x2071, 0x2071, 1), (0x2148, 0x2149, 1), (0x2c7c, 0x2c7c, 1),
     (0x1d422, 0x1d423, 1), (0x1d456, 0x1d457, 1), (0x1d48a, 0x1d48b, 1), (0x1d4be, 0x1d4bf, 1),
     (0x1d4f2, 0x1d4f3, 1), (0x1d526, 0x1d527, 1), (0x1d55a, 0x1d55b, 1), (0x1d58e, 0x1d58f, 1),
     (0x1d5c2, 0x1d5c3, 1), (0x1d5f6, 0x1d5f7, 1), (0x1d62a, 0x1d62b, 1), (0x1d65e, 0x1d65f, 1),
     (0x1d692, 0x1d693, 1), (0x1df1a, 0x1df1a, 1), (0x1e04c, 0x1e04d, 1), (0x1e068, 0x1e068, 1)]

/-- The property Unified Ideograph. -/
def unifiedIdeographProperty : BinaryProperty where
  names := ["unifiedideograph", "uideo"]
  table :=
    [(0x3400, 0x4dbf, 1), (0x4e00, 0x9fff, 1), (0xfa0e, 0xfa0f, 1), (0xfa11, 0xfa11, 1),
     (0xfa13, 0xfa14, 1), (0xfa1f, 0xfa21, 2), (0xfa23, 0xfa24, 1), (0xfa27, 0xfa29, 1),
     (0x20000, 0x2a6df, 1), (0x2a700, 0x2b739, 1), (0x2b740, 0x2b81d, 1), (0x2b820, 0x2cea1, 1),
     (0x2ceb0, 0x2ebe0, 1), (0x2ebf0, 0x2ee5d, 1), (0x30000, 0x3134a, 1), (0x31350, 0x323af, 1)]

/-- The property Variation Selector. -/
def variationSelectorProperty : BinaryProperty where
  names := ["variationselector", "vs"]
  table :=
    [(0x180b, 0x180d, 1), (0x180f, 0x180f, 1), (0xfe00, 0xfe0f, 1), (0xe0100, 0xe01ef, 1)]

/-- The small binary properties. -/
def binaryProperties : List BinaryProperty :=
  [bidiControlProperty, dashProperty, defaultIgnorableProperty, deprecatedProperty,
   emojiComponentProperty, emojiModifierProperty, emojiModifierBaseProperty, extenderProperty,
   hexDigitProperty, idsBinaryProperty, idsTrinaryProperty, ideographicProperty,
   joinControlProperty, logicalOrderExceptionProperty, noncharacterProperty,
   patternSyntaxProperty, patternWhiteSpaceProperty, quotationMarkProperty, radicalProperty,
   regionalIndicatorProperty, softDottedProperty, unifiedIdeographProperty,
   variationSelectorProperty]

end JsonShape.Unicode
