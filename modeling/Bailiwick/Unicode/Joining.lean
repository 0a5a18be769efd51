import Bailiwick.Unicode.Range

/-!
Joining types of cursive scripts, combining marks and viramas over the repertoire of names: what the rules for
invisible joiners look at.
-/

namespace Bailiwick.Unicode

/-- How a character connects to its neighbours. No character of the repertoire connects only to the one after
it, and one that makes others join without joining itself counts as `none`. -/
inductive JoiningType where
  | dual | right | transparent | none
  deriving DecidableEq, Repr

def dualJoiningRanges : List (Nat × Nat) :=
  [(0x620, 0x620), (0x626, 0x626), (0x628, 0x628), (0x62A, 0x62E), (0x633, 0x63F), (0x641, 0x647),
   (0x649, 0x64A), (0x66E, 0x66F), (0x678, 0x687), (0x69A, 0x6BF), (0x6C1, 0x6C2), (0x6CC, 0x6CC),
   (0x6CE, 0x6CE), (0x6D0, 0x6D1), (0x6FA, 0x6FC), (0x6FF, 0x6FF), (0x1E900, 0x1E943)]

def rightJoiningRanges : List (Nat × Nat) :=
  [(0x622, 0x625), (0x627, 0x627), (0x629, 0x629), (0x62F, 0x632), (0x648, 0x648), (0x671, 0x673),
   (0x675, 0x677), (0x688, 0x699), (0x6C0, 0x6C0), (0x6C3, 0x6CB), (0x6CD, 0x6CD), (0x6CF, 0x6CF),
   (0x6D2, 0x6D3), (0x6D5, 0x6D5), (0x6EE, 0x6EF)]

def transparentRanges : List (Nat × Nat) :=
  [(0xAD, 0xAD), (0x300, 0x36F), (0x483, 0x489), (0x591, 0x5BD), (0x5BF, 0x5BF), (0x5C1, 0x5C2), (0x5C4, 0x5C5),
   (0x5C7, 0x5C7), (0x610, 0x61A), (0x61C, 0x61C), (0x64B, 0x65F), (0x670, 0x670), (0x6D6, 0x6DC),
   (0x6DF, 0x6E4), (0x6E7, 0x6E8), (0x6EA, 0x6ED), (0x941, 0x948), (0x94D, 0x94D), (0x9CD, 0x9CD),
   (0xC81, 0xC81), (0xCC6, 0xCC6), (0xE47, 0xE4E), (0xF99, 0xFBC), (0x1039, 0x103A), (0x17B4, 0x17B5),
   (0x200B, 0x200B), (0x200E, 0x200F), (0x202A, 0x202E), (0x2060, 0x2064), (0x206A, 0x206F), (0x20D0, 0x20F0),
   (0x302A, 0x302D), (0x3099, 0x309A), (0xFE00, 0xFE0F), (0xFEFF, 0xFEFF), (0xE0001, 0xE0001)]

def joiningType (c : Char) : JoiningType :=
  if c.toNat < 0x80 then .none
  else if inRanges dualJoiningRanges c then .dual
  else if inRanges rightJoiningRanges c then .right
  else if inRanges transparentRanges c then .transparent
  else .none

/-- The combining marks of the repertoire, spacing and enclosing ones included. -/
def markRanges : List (Nat × Nat) :=
  [(0x300, 0x36F), (0x483, 0x489), (0x591, 0x5BD), (0x5BF, 0x5BF), (0x5C1, 0x5C2), (0x5C4, 0x5C5),
   (0x5C7, 0x5C7), (0x610, 0x61A), (0x64B, 0x65F), (0x670, 0x670), (0x6D6, 0x6DC), (0x6DF, 0x6E4),
   (0x6E7, 0x6E8), (0x6EA, 0x6ED), (0x93E, 0x94F), (0x9BE, 0x9C4), (0x9C7, 0x9C8), (0x9CB, 0x9CD),
   (0xBC6, 0xBC8), (0xC81, 0xC83), (0xCBE, 0xCC4), (0xCC6, 0xCC8), (0xCCA, 0xCCD), (0xE47, 0xE4E),
   (0xF99, 0xFBC), (0x102B, 0x103E), (0x17B4, 0x17D3), (0x20D0, 0x20F0), (0x302A, 0x302F), (0x3099, 0x309A),
   (0xFE00, 0xFE0F)]

def isMark (c : Char) : Bool := inRanges markRanges c

/-- Whether a character suppresses the vowel of the consonant before it, and so lets a joiner follow. The viramas
are Devanagari, Bengali and Burmese; the blocks that the repertoire covers whole have none. -/
def isVirama (c : Char) : Bool := c.toNat == 0x94D || c.toNat == 0x9CD || c.toNat == 0x103A

end Bailiwick.Unicode
