import Bailiwick.Unicode.Range

/-!
Bidirectional classes over the repertoire of names. A character outside the tables is of class `l`; blanks,
separators and explicit direction controls, which no rule for names admits, are of class `other`.
-/

namespace Bailiwick.Unicode

/-- The classes that the rules for names in both directions tell apart. -/
inductive BidiClass where
  | l | r | al | an | en | es | et | cs | on | bn | nsm | other
  deriving DecidableEq, Repr

/-- Beyond ASCII, the characters of the repertoire that are not of class `l`. -/
def bidiRanges : List (Nat × Nat × BidiClass) :=
  [(0x80, 0x84, .bn), (0x85, 0x85, .other), (0x86, 0x9F, .bn), (0xA0, 0xA0, .cs), (0xA1, 0xA1, .on),
   (0xA2, 0xA5, .et), (0xA6, 0xA9, .on), (0xAB, 0xAC, .on), (0xAD, 0xAD, .bn), (0xAE, 0xAF, .on),
   (0xB0, 0xB1, .et), (0xB2, 0xB3, .en), (0xB4, 0xB4, .on), (0xB6, 0xB8, .on), (0xB9, 0xB9, .en),
   (0xBB, 0xBF, .on), (0xD7, 0xD7, .on), (0xF7, 0xF7, .on), (0x2B9, 0x2BA, .on), (0x2C2, 0x2CF, .on),
   (0x2D2, 0x2DF, .on), (0x2E5, 0x2ED, .on), (0x2EF, 0x2FF, .on), (0x300, 0x36F, .nsm), (0x374, 0x375, .on),
   (0x37E, 0x37E, .on), (0x384, 0x385, .on), (0x387, 0x387, .on), (0x3F6, 0x3F6, .on), (0x483, 0x489, .nsm),
   (0x58A, 0x58A, .on), (0x58D, 0x58E, .on), (0x58F, 0x58F, .et), (0x590, 0x590, .r), (0x591, 0x5BD, .nsm),
   (0x5BE, 0x5BE, .r), (0x5BF, 0x5BF, .nsm), (0x5C0, 0x5C0, .r), (0x5C1, 0x5C2, .nsm), (0x5C3, 0x5C3, .r),
   (0x5C4, 0x5C5, .nsm), (0x5C6, 0x5C6, .r), (0x5C7, 0x5C7, .nsm), (0x5C8, 0x5FF, .r), (0x600, 0x605, .an),
   (0x606, 0x607, .on), (0x608, 0x608, .al), (0x609, 0x60A, .et), (0x60B, 0x60B, .al), (0x60C, 0x60C, .cs),
   (0x60D, 0x60D, .al), (0x60E, 0x60F, .on), (0x610, 0x61A, .nsm), (0x61B, 0x64A, .al), (0x64B, 0x65F, .nsm),
   (0x660, 0x669, .an), (0x66A, 0x66A, .et), (0x66B, 0x66C, .an), (0x66D, 0x66F, .al), (0x670, 0x670, .nsm),
   (0x671, 0x6D5, .al), (0x6D6, 0x6DC, .nsm), (0x6DD, 0x6DD, .an), (0x6DE, 0x6DE, .on), (0x6DF, 0x6E4, .nsm),
   (0x6E5, 0x6E6, .al), (0x6E7, 0x6E8, .nsm), (0x6E9, 0x6E9, .on), (0x6EA, 0x6ED, .nsm), (0x6EE, 0x6EF, .al),
   (0x6F0, 0x6F9, .en), (0x6FA, 0x710, .al), (0x941, 0x948, .nsm), (0x94D, 0x94D, .nsm), (0x9CD, 0x9CD, .nsm),
   (0xC78, 0xC7E, .on), (0xC81, 0xC81, .nsm), (0xE47, 0xE4E, .nsm), (0xF99, 0xFBC, .nsm),
   (0x1039, 0x103A, .nsm), (0x17B4, 0x17B5, .nsm), (0x180E, 0x180E, .bn), (0x1FBD, 0x1FBD, .on),
   (0x1FBF, 0x1FC1, .on), (0x1FCD, 0x1FCF, .on), (0x1FDD, 0x1FDF, .on), (0x1FED, 0x1FEF, .on),
   (0x1FFD, 0x1FFE, .on), (0x2000, 0x200A, .other), (0x200B, 0x200D, .bn), (0x200F, 0x200F, .r),
   (0x2010, 0x2027, .on), (0x2028, 0x202E, .other), (0x202F, 0x202F, .cs), (0x2030, 0x2034, .et),
   (0x2035, 0x2043, .on), (0x2044, 0x2044, .cs), (0x2045, 0x205E, .on), (0x205F, 0x205F, .other),
   (0x2060, 0x2065, .bn), (0x2066, 0x2069, .other), (0x206A, 0x206F, .bn), (0x20A0, 0x20CF, .et),
   (0x20D0, 0x20F0, .nsm), (0x2100, 0x2101, .on), (0x2103, 0x2106, .on), (0x2116, 0x2118, .on),
   (0x211E, 0x2123, .on), (0x2190, 0x2211, .on), (0x2212, 0x2212, .es), (0x2214, 0x2335, .on),
   (0x2460, 0x2487, .on), (0x2488, 0x249B, .en), (0x24EA, 0x26AB, .on), (0x26AD, 0x27FF, .on),
   (0x2900, 0x2B73, .on), (0x3000, 0x3000, .other), (0x3001, 0x3004, .on), (0x3008, 0x3020, .on),
   (0x302A, 0x302D, .nsm), (0x3030, 0x3030, .on), (0x3036, 0x3037, .on), (0x303D, 0x303F, .on),
   (0x3099, 0x309A, .nsm), (0x309B, 0x309C, .on), (0x30A0, 0x30A0, .on), (0x30FB, 0x30FB, .on),
   (0xFDD0, 0xFDEF, .bn), (0xFDF0, 0xFDFC, .al), (0xFE00, 0xFE0F, .nsm), (0xFE56, 0xFE5E, .on),
   (0xFE62, 0xFE63, .es), (0xFE70, 0xFEFE, .al), (0xFEFF, 0xFEFF, .bn), (0xFF01, 0xFF02, .on),
   (0xFF03, 0xFF05, .et), (0xFF06, 0xFF0A, .on), (0xFF0B, 0xFF0B, .es), (0xFF0C, 0xFF0C, .cs),
   (0xFF0D, 0xFF0D, .es), (0xFF0E, 0xFF0F, .cs), (0xFF10, 0xFF19, .en), (0xFF1A, 0xFF1A, .cs),
   (0xFF1B, 0xFF20, .on), (0xFF3B, 0xFF40, .on), (0xFF5B, 0xFF65, .on), (0xFFE0, 0xFFE1, .et),
   (0xFFE2, 0xFFE4, .on), (0xFFE5, 0xFFE6, .et), (0xFFE8, 0xFFEE, .on), (0xFFF9, 0xFFFD, .on),
   (0xFFFE, 0xFFFF, .bn), (0x10800, 0x1091E, .r), (0x1D7CE, 0x1D7FF, .en), (0x1E8D7, 0x1E943, .r),
   (0x1F300, 0x1F6D7, .on), (0xDFFFE, 0xE00FF, .bn), (0x10FFFE, 0x10FFFF, .bn)]

/-- Ranges of ASCII characters with their class; the rest are letters. -/
def bidiAscii : List (Nat × Nat × BidiClass) :=
  [(0x00, 0x08, .bn), (0x09, 0x0D, .other), (0x0E, 0x1B, .bn), (0x1C, 0x20, .other), (0x21, 0x22, .on),
   (0x23, 0x25, .et), (0x26, 0x2A, .on), (0x2B, 0x2B, .es), (0x2C, 0x2C, .cs), (0x2D, 0x2D, .es),
   (0x2E, 0x2F, .cs), (0x30, 0x39, .en), (0x3A, 0x3A, .cs), (0x3B, 0x40, .on), (0x5B, 0x60, .on),
   (0x7B, 0x7E, .on), (0x7F, 0x7F, .bn)]

def bidiClass (c : Char) : BidiClass :=
  let ranges := if c.toNat < 0x80 then bidiAscii else bidiRanges
  (valueIn? ranges c).getD .l

end Bailiwick.Unicode
