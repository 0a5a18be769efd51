import Bailiwick.Decimal.Binary
import Bailiwick.Text.Numeral

/-!
The shortest decimal text of a binary floating-point number: the fewest digits that read back as the same
number, and of those the nearest to it. Of two that are equally near the even one is taken.
-/

namespace Bailiwick.Decimal

/-- A decimal number `digits * 10 ^ exponent`. -/
structure Scaled where
  digits : Nat
  exponent : Int

/-- The power of ten below or at a positive fraction. -/
def magnitude (num den : Nat) : Int :=
  if den ≤ num then ((Text.showNat 10 (num / den)).length : Int) - 1
  else
    let k := (Text.showNat 10 (den / num)).length
    if den ≤ num * Nat.pow 10 (k - 1) then -((k : Int) - 1) else -(k : Int)

/-- Of the two neighbours of the number with a given last digit, the nearer one that reads back as the
number. The number is `4 * m * unit`, where the unit is `num / den`. -/
def candidate (b : Binary) (num den : Nat) (exponent : Int) : Option Scaled :=
  let value := 4 * b.m * num
  let step := if 0 ≤ exponent then Nat.pow 10 exponent.toNat * den else den
  let scale := if 0 ≤ exponent then 1 else Nat.pow 10 (-exponent).toNat
  let low := (4 * b.m - (if b.lowerIsCloser then 1 else 2)) * num * scale
  let high := (4 * b.m + 2) * num * scale
  let value := value * scale
  let inside := fun digits =>
    let x := digits * step
    if b.m % 2 = 0 then low ≤ x && x ≤ high else low < x && x < high
  let below := value / step
  let above := below + 1
  let down := value - below * step
  let up := above * step - value
  let nearerBelow := down < up || (down == up && below % 2 == 0)
  if inside below && (nearerBelow || !inside above) then some ⟨below, exponent⟩
  else if inside above then some ⟨above, exponent⟩
  else none

/-- The first hit among the counts of digits from the given one on. -/
def search (b : Binary) (num den : Nat) (top : Int) : Nat → Nat → Scaled
  | 0, count => (candidate b num den (top + 1 - count)).getD ⟨0, 0⟩
  | tries + 1, count =>
    match candidate b num den (top + 1 - count) with
    | some d => d
    | none => search b num den top tries (count + 1)

/-- The shortest decimal that reads back as a positive number. -/
def shortest (b : Binary) : Scaled :=
  let q := b.q - 2
  let num := if 0 ≤ q then Nat.pow 2 q.toNat else 1
  let den := if 0 ≤ q then 1 else Nat.pow 2 (-q).toNat
  search b num den (magnitude (4 * b.m * num) den) 17 1

/-- A decimal in positional notation, always with a point. -/
def Scaled.positional (d : Scaled) : List Char :=
  let digits := Text.showNat 10 d.digits
  if 0 ≤ d.exponent then digits ++ List.replicate d.exponent.toNat '0' ++ ['.', '0']
  else
    let places := (-d.exponent).toNat
    let padded := List.replicate (places + 1 - digits.length) '0' ++ digits
    padded.take (padded.length - places) ++ '.' :: padded.drop (padded.length - places)

/-- The power of ten of the first digit. -/
def Scaled.order (d : Scaled) : Int := (Text.showNat 10 d.digits).length - 1 + d.exponent

/-- A decimal with one digit before the point, without a point where no digit follows, and a signed exponent. -/
def Scaled.scientific (d : Scaled) : List Char :=
  let digits := Text.showNat 10 d.digits
  let tail := ((digits.drop 1).reverse.dropWhile (· = '0')).reverse
  let order := d.order
  digits.take 1 ++ (if tail.isEmpty then [] else '.' :: tail)
    ++ 'e' :: (if order < 0 then '-' else '+') :: Text.showNat 10 order.natAbs

/-- Positional from a hundred-thousandth up to below 10 to the 16th, and scientific outside. -/
def Scaled.render (d : Scaled) : List Char :=
  if -5 ≤ d.order ∧ d.order < 16 then d.positional else d.scientific

/-- The text of a finite 64-bit number. -/
def showBits (bits : UInt64) : String :=
  let b := Binary.ofBits bits
  let digits := if b.m = 0 then ['0', '.', '0'] else (shortest b).render
  String.ofList (if bits >>> 63 = 1 then '-' :: digits else digits)

end Bailiwick.Decimal
