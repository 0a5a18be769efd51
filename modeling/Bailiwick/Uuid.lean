import Bailiwick.Text.Numeral

/-!
Universally unique identifiers of 128 bits. They are written as 32 hexadecimal digits in groups of 8, 4, 4,
4 and 12 between hyphens, and read also without hyphens, in braces or behind `urn:uuid:`.
-/

namespace Bailiwick

structure Uuid where
  bits : BitVec 128
  deriving DecidableEq

namespace Uuid

def toNat (id : Uuid) : Nat := id.bits.toNat

/-- The identifier with the low 128 bits of a number. -/
def ofNat (n : Nat) : Uuid := ⟨.ofNat 128 n⟩

instance : Repr Uuid where
  reprPrec id _ := repr id.toNat

/-- Hyphens after the 8th, 12th, 16th and 20th digit. -/
def hyphenate (digits : List Char) : List Char :=
  digits.take 8 ++ '-' :: ((digits.drop 8).take 4 ++ '-' :: ((digits.drop 12).take 4 ++ '-' ::
    ((digits.drop 16).take 4 ++ '-' :: digits.drop 20)))

def render (id : Uuid) : List Char := hyphenate (Text.showPadded 16 32 id.toNat)

def text (id : Uuid) : String := String.ofList id.render

/-- Reads 32 digits. -/
def readDigits? (s : List Char) : Option Uuid :=
  if s.length = 32 then (Text.readNat? 16 s).map ofNat else none

/-- Reads digits in groups. -/
def readHyphenated? (s : List Char) : Option Uuid :=
  let digits := s.filter (· ≠ '-')
  if s = hyphenate digits then readDigits? digits else none

/-- The name of the namespace, which is read in any case. -/
def urnPrefix : List Char := "urn:uuid:".toList

/-- What stands between braces or behind the name of the namespace, if the text has such a form. -/
def unwrap? (s : List Char) : Option (List Char) :=
  if s.length = 38 ∧ s.head? = some '\x7b' ∧ s.getLast? = some '\x7d' then some ((s.drop 1).take 36)
  else if s.length = 45 ∧ (s.take 9).map Char.toLower = urnPrefix then some (s.drop 9)
  else none

def read? (text : String) : Option Uuid :=
  let s := text.toList
  match unwrap? s with
  | some inner => readHyphenated? inner
  | none => if s.length = 32 then readDigits? s else readHyphenated? s

end Uuid

end Bailiwick
