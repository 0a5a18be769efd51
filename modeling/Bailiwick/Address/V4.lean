import Bailiwick.Text.Numeral
import Bailiwick.Text.Pieces

/-!
IPv4 addresses and their text: four decimal numbers between dots, each below 256 and without leading zeros.
-/

namespace Bailiwick

structure IPv4 where
  a : UInt8
  b : UInt8
  c : UInt8
  d : UInt8
  deriving DecidableEq, Repr

namespace IPv4

def showOctet (octet : UInt8) : List Char := Text.showNat 10 octet.toNat

/-- The dotted text. -/
def render (ip : IPv4) : List Char :=
  Text.joinWith '.' [showOctet ip.a, showOctet ip.b, showOctet ip.c, showOctet ip.d]

def readOctet? (s : List Char) : Option UInt8 :=
  if 3 < s.length ∨ (s.head? = some '0' ∧ s ≠ ['0']) then none
  else match Text.readNat? 10 s with
    | some n => if n < 256 then some (UInt8.ofNat n) else none
    | none => none

def read? (s : List Char) : Option IPv4 :=
  match Text.splitAt '.' s with
  | [a, b, c, d] => return ⟨← readOctet? a, ← readOctet? b, ← readOctet? c, ← readOctet? d⟩
  | _ => none

end IPv4

end Bailiwick
