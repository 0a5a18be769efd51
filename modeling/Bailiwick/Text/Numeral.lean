/-!
Numerals: numbers written in digits of some base, most significant first.
-/

namespace Bailiwick.Text

/-- The value of a digit; letters of either case count from ten. -/
def digitValue (c : Char) : Option Nat :=
  if '0' ≤ c ∧ c ≤ '9' then some (c.toNat - '0'.toNat)
  else if 'a' ≤ c ∧ c ≤ 'z' then some (c.toNat - 'a'.toNat + 10)
  else if 'A' ≤ c ∧ c ≤ 'Z' then some (c.toNat - 'A'.toNat + 10)
  else none

/-- The digit for a value below 36, in lower case. -/
def digitOf (d : Nat) : Char :=
  if d < 10 then Char.ofNat ('0'.toNat + d) else Char.ofNat ('a'.toNat + (d - 10))

/-- Reads further digits of a base after a number. -/
def readDigits (base : Nat) (number : Nat) : List Char → Option Nat
  | [] => some number
  | c :: rest => do
    let d ← digitValue c
    if d < base then readDigits base (number * base + d) rest else none

/-- Reads a text that consists of at least one digit. -/
def readNat? (base : Nat) (s : List Char) : Option Nat :=
  if s.isEmpty then none else readDigits base 0 s

/-- The digits of a number; none for zero. -/
def digitsOf (base n : Nat) : List Char :=
  if _h : n = 0 ∨ base < 2 then [] else digitsOf base (n / base) ++ [digitOf (n % base)]
termination_by n
decreasing_by exact Nat.div_lt_self (by omega) (by omega)

/-- A number without leading zeros. -/
def showNat (base n : Nat) : List Char := if n = 0 then ['0'] else digitsOf base n

/-- Exactly `width` digits, with zeros in front; higher digits are dropped. -/
def showPadded (base : Nat) : Nat → Nat → List Char
  | 0, _ => []
  | width + 1, n => showPadded base width (n / base) ++ [digitOf (n % base)]

/-- Reads a decimal number with an optional plus sign, up to a largest value. -/
def readCount? (largest : Nat) (s : List Char) : Option Nat :=
  let digits := match s with
    | '+' :: rest => rest
    | _ => s
  (readNat? 10 digits).filter (· ≤ largest)

end Bailiwick.Text
