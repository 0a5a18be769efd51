/-!
Binary floating-point numbers of 64 bits, without their sign: the fraction that such a number stands for, and
the number nearest to a fraction. Numbers read from decimal digits are rounded after every step.
-/

namespace Bailiwick.Decimal

/-- A finite binary number `m * 2 ^ q`, with the flag for the lower neighbour that is only half as far away as
the upper one. -/
structure Binary where
  m : Nat
  q : Int
  lowerIsCloser : Bool

/-- The magnitude in the low 63 bits of a 64-bit pattern. -/
def Binary.ofBits (bits : UInt64) : Binary :=
  let exponent := ((bits >>> 52) &&& 0x7FF).toNat
  let fraction := (bits &&& 0xFFFFFFFFFFFFF).toNat
  if exponent = 0 then { m := fraction, q := -1074, lowerIsCloser := false }
  else { m := fraction + Nat.pow 2 52, q := exponent - 1075, lowerIsCloser := fraction = 0 && 1 < exponent }

/-- A fraction of natural numbers. -/
structure Fraction where
  num : Nat
  den : Nat

namespace Fraction

def ofNat (n : Nat) : Fraction := ⟨n, 1⟩

/-- The value of a magnitude given by its bits. -/
def ofBits (bits : Nat) : Fraction :=
  let b := Binary.ofBits (.ofNat bits)
  ⟨b.m * Nat.pow 2 b.q.toNat, Nat.pow 2 (-b.q).toNat⟩

def mul (a b : Fraction) : Fraction := ⟨a.num * b.num, a.den * b.den⟩

def div (a b : Fraction) : Fraction := ⟨a.num * b.den, a.den * b.num⟩

/-- The fraction over `2 ^ q`. -/
def scaleDown (a : Fraction) (q : Int) : Fraction := ⟨a.num * Nat.pow 2 (-q).toNat, a.den * Nat.pow 2 q.toNat⟩

/-- The nearest natural number, and of two the even one. -/
def round (a : Fraction) : Nat :=
  let below := a.num / a.den
  let twice := 2 * (a.num % a.den)
  if twice < a.den || (twice == a.den && below % 2 == 0) then below else below + 1

/-- The bits of the nearest magnitude. The unit in the last place is chosen so that the number has 53 binary
digits, and no smaller than the smallest unit; where rounding carries into the next digit, the bits carry
into the exponent. -/
def nearestBits (a : Fraction) : Nat :=
  if a.num = 0 then 0
  else
    let e : Int := (a.num.log2 : Int) - a.den.log2
    let leading := a.scaleDown e
    let q := max (-1074) (if leading.num < leading.den then e - 53 else e - 52)
    (q + 1074).toNat * Nat.pow 2 52 + (a.scaleDown q).round

end Fraction

/-- The bits of an infinite number, which are above those of all finite magnitudes. -/
def infiniteBits : Nat := 0x7FF0000000000000

/-- The largest power of ten that is a finite number. -/
def largestPower : Nat := 308

def powerBits (n : Nat) : Nat := (Fraction.ofNat (Nat.pow 10 n)).nearestBits

/-- The bits of the number nearest to a magnitude over a power of ten. -/
def divPower (bits n : Nat) : Nat := ((Fraction.ofBits bits).div (.ofBits (powerBits n))).nearestBits

/-- The bits of `significand * 10 ^ exponent`, where the significand is rounded first and every multiplication
or division by a power of ten after that; they are not finite where the number is out of range. Nothing is
left of a significand of 64 bits after two divisions by the largest power. -/
def scaledBits (significand : Nat) (exponent : Int) : Nat :=
  let bits := (Fraction.ofNat significand).nearestBits
  let n := exponent.natAbs
  if bits = 0 then 0
  else if 0 ≤ exponent then
    if n ≤ largestPower then ((Fraction.ofBits bits).mul (.ofBits (powerBits n))).nearestBits else infiniteBits
  else if n ≤ largestPower then divPower bits n
  else if n ≤ 2 * largestPower then divPower (divPower bits largestPower) (n - largestPower)
  else 0

end Bailiwick.Decimal
