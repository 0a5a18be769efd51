import Bailiwick.Decimal.Binary
import Bailiwick.Json.Basic
import Bailiwick.Text.Numeral

/-!
Reading JSON texts. Blanks are the four of the format and control characters in strings must be escaped. A
surrogate that stands alone makes the string that it is in unreadable, but not the text around it. Members
with the same name are all kept.
-/

namespace Bailiwick.Json

def isSpace (c : Char) : Bool := c = ' ' || c = '\n' || c = '\r' || c = '\t'

def skipSpace (s : List Char) : List Char := s.dropWhile isSpace

/-- Four hexadecimal digits. -/
def readUnit? : List Char → Option (Nat × List Char)
  | a :: b :: c :: d :: rest => (Text.readNat? 16 [a, b, c, d]).map (·, rest)
  | _ => none

/-- The character of an escape that begins with the first half of a pair, given what follows. -/
def readLowHalf? (high : Nat) : List Char → Option (Char × List Char)
  | '\\' :: 'u' :: rest => do
    let (low, rest) ← readUnit? rest
    if 0xDC00 ≤ low ∧ low ≤ 0xDFFF then
      some (Char.ofNat (0x10000 + (high - 0xD800) * 0x400 + (low - 0xDC00)), rest)
    else none
  | _ => none

/-- The character of an escape, after the backslash; there is none if it is half of a pair. -/
def readEscape? : List Char → Option (Option Char × List Char)
  | '"' :: rest => some (some '"', rest)
  | '\\' :: rest => some (some '\\', rest)
  | '/' :: rest => some (some '/', rest)
  | 'b' :: rest => some (some '\x08', rest)
  | 'f' :: rest => some (some '\x0c', rest)
  | 'n' :: rest => some (some '\n', rest)
  | 'r' :: rest => some (some '\r', rest)
  | 't' :: rest => some (some '\t', rest)
  | 'u' :: rest => do
    let (unit, rest) ← readUnit? rest
    if unit < 0xD800 ∨ 0xDFFF < unit then some (some (Char.ofNat unit), rest)
    else if 0xDC00 ≤ unit then some (none, rest)
    else match readLowHalf? unit rest with
      | some (c, rest) => some (some c, rest)
      | none => some (none, rest)
  | _ => none

/-- The characters of a string up to its closing quote, with a gap for each half of a pair. Each step consumes
a character, so that the length of the input bounds the steps. -/
def readString? : Nat → List Char → Option (List (Option Char) × List Char)
  | 0, _ => none
  | _ + 1, [] => none
  | steps + 1, c :: rest =>
    if c = '"' then some ([], rest)
    else if c = '\\' then do
      let (d, rest) ← readEscape? rest
      let (more, rest) ← readString? steps rest
      return (d :: more, rest)
    else if c.toNat < 0x20 then none
    else do
      let (more, rest) ← readString? steps rest
      return (some c :: more, rest)

/-- The string that characters make up, if there are no gaps. -/
def stringOf? (s : List (Option Char)) : Option String := (s.mapM id).map String.ofList

/-- What was read of a text, given the text and its rest, as a value that is only passed over. -/
def verbatimUpTo (s rest : List Char) : Json := .verbatim (String.ofList (s.take (s.length - rest.length)))

/-- A non-empty run of decimal digits. -/
def readRun? (s : List Char) : Option (List Char × List Char) :=
  match s.span Char.isDigit with
  | ([], _) => none
  | (digits, rest) => some (digits, rest)

/-- The significand of a number and the power of ten that it is to be multiplied by. -/
structure Significand where
  value : Nat
  exponent : Int

/-- A significand with one more digit, if 64 bits hold it. -/
def Significand.push? (s : Significand) (digit : Char) : Option Nat :=
  let value := s.value * 10 + (Text.digitValue digit).getD 0
  if value < UInt64.size then some value else none

/-- Takes the digits before the point; those that do not fit any more count as zeros. -/
def Significand.addWhole (s : Significand) : List Char → Significand
  | [] => s
  | digit :: digits =>
    match s.push? digit with
    | some value => Significand.addWhole ⟨value, s.exponent⟩ digits
    | none => ⟨s.value, s.exponent + (digits.length + 1 : Nat)⟩

/-- Takes the digits after the point up to the first that does not fit. -/
def Significand.addFraction (s : Significand) : List Char → Significand
  | [] => s
  | digit :: digits =>
    match s.push? digit with
    | some value => Significand.addFraction ⟨value, s.exponent - 1⟩ digits
    | none => s

/-- A number that is not whole or beyond 64 bits, if it is not out of range. -/
def floatOf? (negative : Bool) (significand : Significand) (exponent : Int) : Option Json :=
  let bits := Decimal.scaledBits significand.value (significand.exponent + exponent)
  if bits < Decimal.infiniteBits then some (.float (.ofNat (if negative then bits + Nat.pow 2 63 else bits)))
  else none

/-- The digits after a decimal point, if there is one. -/
def readFraction? : List Char → Option (List Char × List Char)
  | '.' :: rest => readRun? rest
  | s => some ([], s)

/-- The number after an exponent mark, if there is one. -/
def readExponent? (s : List Char) : Option (Option Int × List Char) :=
  match s with
  | [] => some (none, s)
  | c :: rest =>
    if c = 'e' ∨ c = 'E' then do
      let (negative, rest) := match rest with
        | '+' :: r => (false, r)
        | '-' :: r => (true, r)
        | r => (false, r)
      let (digits, rest) ← readRun? rest
      let n ← Text.readNat? 10 digits
      return (some (if negative then -(n : Int) else n), rest)
    else some (none, s)

def readNumber? (s : List Char) : Option (Json × List Char) := do
  let (negative, digits) := match s with
    | '-' :: r => (true, r)
    | r => (false, r)
  let (whole, rest) ← readRun? digits
  if whole.head? = some '0' ∧ whole ≠ ['0'] then none
  else
    let (fraction, rest) ← readFraction? rest
    let (exponent, rest) ← readExponent? rest
    let n ← Text.readNat? 10 whole
    let isWhole := fraction.isEmpty && exponent.isNone
    if isWhole ∧ !negative ∧ n < UInt64.size then some (.int n, rest)
    else if isWhole ∧ negative ∧ 0 < n ∧ n ≤ UInt64.size / 2 then some (.int (-(n : Int)), rest)
    else
      let significand := (Significand.addWhole ⟨0, 0⟩ whole).addFraction fraction
      some ((floatOf? negative significand (exponent.getD 0)).getD (verbatimUpTo s rest), rest)

/-- The members of an object as one value, given the object's text and what follows it. -/
def objectOf (s rest : List Char) (members : List (Option String × Json)) : Json :=
  match members.mapM fun entry => entry.1.map (·, entry.2) with
  | some members => .obj members
  | none => verbatimUpTo s rest

mutual

/-- A value at the start of a text. The depth of nesting and the number of items are bounded by the length of
the text, which is what the first argument counts down from. -/
def readValue? : Nat → List Char → Option (Json × List Char)
  | 0, _ => none
  | steps + 1, s =>
    let s := skipSpace s
    match s with
    | 'n' :: 'u' :: 'l' :: 'l' :: rest => some (.null, rest)
    | 't' :: 'r' :: 'u' :: 'e' :: rest => some (.bool true, rest)
    | 'f' :: 'a' :: 'l' :: 's' :: 'e' :: rest => some (.bool false, rest)
    | '"' :: rest => do
      let (text, rest) ← readString? (rest.length + 1) rest
      return (((stringOf? text).map Json.str).getD (verbatimUpTo s rest), rest)
    | '[' :: rest =>
      match skipSpace rest with
      | ']' :: rest => some (.arr [], rest)
      | rest => do
        let (items, rest) ← readItems? steps rest
        return (.arr items, rest)
    | '\x7b' :: rest =>
      match skipSpace rest with
      | '\x7d' :: rest => some (.obj [], rest)
      | rest => do
        let (members, rest) ← readMembers? steps rest
        return (objectOf s rest members, rest)
    | _ => readNumber? s

/-- The items of an array up to its closing bracket. -/
def readItems? : Nat → List Char → Option (List Json × List Char)
  | 0, _ => none
  | steps + 1, s => do
    let (item, rest) ← readValue? steps s
    match skipSpace rest with
    | ',' :: rest => do
      let (items, rest) ← readItems? steps rest
      return (item :: items, rest)
    | ']' :: rest => return ([item], rest)
    | _ => none

/-- The members of an object up to its closing brace, with the names that are strings. -/
def readMembers? : Nat → List Char → Option (List (Option String × Json) × List Char)
  | 0, _ => none
  | steps + 1, s =>
    match skipSpace s with
    | '"' :: rest => do
      let (name, rest) ← readString? (rest.length + 1) rest
      match skipSpace rest with
      | ':' :: rest => do
        let (value, rest) ← readValue? steps rest
        let entry := (stringOf? name, value)
        match skipSpace rest with
        | ',' :: rest => do
          let (members, rest) ← readMembers? steps rest
          return (entry :: members, rest)
        | '\x7d' :: rest => return ([entry], rest)
        | _ => none
      | _ => none
    | _ => none

end

/-- Reads a text that holds one value and nothing else. -/
def read? (text : String) : Option Json := do
  let s := text.toList
  let (value, rest) ← readValue? (s.length + 1) s
  if (skipSpace rest).isEmpty then some value else none

end Bailiwick.Json
