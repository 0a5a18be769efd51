/-!
Punycode: a text as its ASCII characters followed by instructions that insert the others in ascending
order. Each instruction is a number in base 36 with a threshold per digit that adapts to the numbers
before it. Decoding is one pass over the input and fails where a number exceeds 32 bits.
-/

namespace Bailiwick.Idna.Punycode

/-- The largest number that decoding may reach. -/
def maxNumber : Nat := UInt32.size - 1

def digitValue (c : Char) : Option Nat :=
  if 'a' ≤ c ∧ c ≤ 'z' then some (c.toNat - 'a'.toNat)
  else if 'A' ≤ c ∧ c ≤ 'Z' then some (c.toNat - 'A'.toNat)
  else if '0' ≤ c ∧ c ≤ '9' then some (c.toNat - '0'.toNat + 26)
  else none

def digitChar (d : Nat) : Char :=
  if d < 26 then Char.ofNat ('a'.toNat + d) else Char.ofNat ('0'.toNat + (d - 26))

/-- The smallest digit that does not end a number, at the position with weight index `k`. -/
def threshold (bias k : Nat) : Nat :=
  if k ≤ bias then 1 else if bias + 26 ≤ k then 26 else k - bias

theorem threshold_pos (bias k : Nat) : 1 ≤ threshold bias k := by
  unfold threshold
  split
  · omega
  · split <;> omega

theorem threshold_le (bias k : Nat) : threshold bias k ≤ 26 := by
  unfold threshold
  split
  · omega
  · split <;> omega

def adaptFrom (delta k : Nat) : Nat :=
  if h : 455 < delta then adaptFrom (delta / 35) (k + 36) else k + 36 * delta / (delta + 38)
termination_by delta
decreasing_by exact Nat.div_lt_self (by omega) (by omega)

/-- The bias after a number, for a text that has `count` characters by then. -/
def adapt (delta count : Nat) (first : Bool) : Nat :=
  let scaled := if first then delta / 700 else delta / 2
  adaptFrom (scaled + scaled / count) 0

/-- A decoding in progress: the text so far, the last character number, where the next insertion starts
counting, and the number being read with the position and weight of its next digit. -/
structure Decoder where
  text : List Char
  code : Nat
  bias : Nat
  origin : Nat
  number : Nat
  k : Nat
  weight : Nat

def Decoder.start (text : List Char) : Decoder :=
  { text, code := 0x80, bias := 72, origin := 0, number := 0, k := 36, weight := 1 }

/-- Whether the decoder stands between two numbers. -/
def Decoder.isSettled (d : Decoder) : Bool := d.k == 36

/-- Carries out the insertion that a complete number describes. -/
def Decoder.insert (d : Decoder) (number : Nat) : Option Decoder :=
  let count := d.text.length + 1
  let code := d.code + number / count
  if maxNumber < code || !code.isValidChar then none
  else
    let position := number % count
    some {
      text := d.text.take position ++ Char.ofNat code :: d.text.drop position
      code
      bias := adapt (number - d.origin) count (d.origin == 0)
      origin := position + 1
      number := position + 1
      k := 36
      weight := 1 }

/-- Takes one digit. -/
def Decoder.feed (d : Decoder) (c : Char) : Option Decoder := do
  let digit ← digitValue c
  if (maxNumber - d.number) / d.weight < digit then none
  else
    let number := d.number + digit * d.weight
    let t := threshold d.bias d.k
    if digit < t then d.insert number
    else if maxNumber / (36 - t) < d.weight then none
    else some { d with number, k := d.k + 36, weight := d.weight * (36 - t) }

/-- The parts of an encoded text before and after its last hyphen; a hyphen in front separates nothing. -/
def sections (s : List Char) : List Char × List Char :=
  let digits := (s.reverse.takeWhile (· ≠ '-')).reverse
  let plain := s.take (s.length - digits.length - 1)
  if plain.isEmpty then ([], s) else (plain, digits)

/-- The text that an encoded text stands for. -/
def decode (s : List Char) : Option (List Char) := do
  let (plain, digits) := sections s
  let d ← digits.foldlM Decoder.feed (Decoder.start plain)
  if d.isSettled then some d.text else none

/-- The digits of one number. -/
def encodeNumber (bias k q : Nat) : List Char :=
  let t := threshold bias k
  if q < t then [digitChar q]
  else digitChar (t + (q - t) % (36 - t)) :: encodeNumber bias (k + 36) ((q - t) / (36 - t))
termination_by q
decreasing_by
  have hpos := threshold_pos bias k
  calc (q - threshold bias k) / (36 - threshold bias k)
      ≤ q - threshold bias k := Nat.div_le_self _ _
    _ < q := by omega

/-- An encoding in progress: the digits so far, the number of positions passed since the last insertion,
the bias and the count of characters handled. -/
structure Encoder where
  digits : List Char
  delta : Nat
  bias : Nat
  handled : Nat

/-- Passes one character of the text while the characters numbered `code` are being inserted. -/
def Encoder.pass (code plainCount : Nat) (e : Encoder) (c : Char) : Encoder :=
  if c.toNat < code then { e with delta := e.delta + 1 }
  else if c.toNat = code then {
    digits := e.digits ++ encodeNumber e.bias 36 e.delta
    delta := 0
    bias := adapt e.delta (e.handled + 1) (e.handled == plainCount)
    handled := e.handled + 1 }
  else e

/-- Inserts the characters with the given numbers, in ascending order. -/
def Encoder.insertAll (text : List Char) (plainCount : Nat) (e : Encoder) (next : Nat) : List Nat → Encoder
  | [] => e
  | code :: codes =>
    let skipped := { e with delta := e.delta + (code - next) * (e.handled + 1) }
    let passed := text.foldl (Encoder.pass code plainCount) skipped
    Encoder.insertAll text plainCount { passed with delta := passed.delta + 1 } (code + 1) codes

/-- The encoded form of a text. -/
def encode (s : List Char) : List Char :=
  let plain := s.filter fun c => c.toNat < 0x80
  let codes := ((s.map Char.toNat).filter (0x80 ≤ ·)).mergeSort.eraseReps
  let start : Encoder := { digits := [], delta := 0, bias := 72, handled := plain.length }
  let e := start.insertAll s plain.length 0x80 codes
  if plain.isEmpty then e.digits else plain ++ '-' :: e.digits

end Bailiwick.Idna.Punycode
