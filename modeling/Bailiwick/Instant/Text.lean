import Bailiwick.Instant.Basic
import Bailiwick.Instant.Calendar
import Bailiwick.Text.Blank
import Bailiwick.Text.Numeral

/-!
The text of instants: date and time of day with `T` between and `Z` behind, and a fraction of the fewest of
0, 3, 6 and 9 digits that is exact. Reading is more lenient: blanks may stand in front of numbers and
separators, numbers may be short, and the offset from universal time may have any form of sign, colon
and zero.
-/

namespace Bailiwick.Instant

open Text Calendar

/-- The fraction of a second with its point; empty where there is none. -/
def showFraction (nanos : Nat) : List Char :=
  if nanos = 0 then []
  else if nanos % 1000000 = 0 then '.' :: showPadded 10 3 (nanos / 1000000)
  else if nanos % 1000 = 0 then '.' :: showPadded 10 6 (nanos / 1000)
  else '.' :: showPadded 10 9 nanos

/-- Four digits, or a sign and at least four digits for a year outside 0 to 9999. -/
def showYear (year : Int) : List Char :=
  if 0 ≤ year ∧ year ≤ 9999 then showPadded 10 4 year.toNat
  else
    let digits := showNat 10 year.natAbs
    (if year < 0 then '-' else '+') :: (List.replicate (4 - digits.length) '0' ++ digits)

def showDate (date : Date) : List Char :=
  showYear date.year ++ '-' :: (showPadded 10 2 date.month ++ '-' :: showPadded 10 2 date.day)

def render (i : Instant) : List Char :=
  let second := (i.seconds % 86400).toNat
  let leap := i.nanos / 1000000000
  showDate (Date.ofDays (i.seconds / 86400)) ++ 'T' :: (showPadded 10 2 (second / 3600) ++ ':' ::
    (showPadded 10 2 (second / 60 % 60) ++ ':' :: (showPadded 10 2 (second % 60 + leap) ++
      (showFraction (i.nanos % 1000000000) ++ ['Z']))))

def text (i : Instant) : String := String.ofList i.render

/-- Steps of reading: each takes something from the front of the text or fails. -/
abbrev Reader := StateT (List Char) Option

def skipBlanks : Reader Unit := modify trimStart

def expect (c : Char) : Reader Unit := fun s =>
  match s with
  | d :: rest => if c = d then some ((), rest) else none
  | [] => none

/-- At least one digit and at most as many as given. -/
def readNumber (most : Nat) : Reader Nat := fun s =>
  let digits := (s.take most).takeWhile Char.isDigit
  (readNat? 10 digits).map (·, s.drop digits.length)

/-- A year of up to four digits, or of any length behind a sign. -/
def readYear : Reader Int := fun s =>
  match s with
  | '-' :: rest => (readNumber rest.length rest).map fun (n, rest) => (-(n : Int), rest)
  | '+' :: rest => (readNumber rest.length rest).map fun (n, rest) => ((n : Int), rest)
  | _ => (readNumber 4 s).map fun (n, rest) => ((n : Int), rest)

def readDate : Reader Date := do
  skipBlanks
  let year ← readYear
  skipBlanks
  expect '-'
  skipBlanks
  let month ← readNumber 2
  skipBlanks
  expect '-'
  skipBlanks
  let day ← readNumber 2
  return { year, month, day }

/-- What stands between date and time. -/
def readSeparator : Reader Unit := fun s =>
  match s with
  | c :: rest => if c = 'T' ∨ c = 't' ∨ c = ' ' then some ((), rest) else none
  | [] => none

/-- The nanoseconds of a fraction, if there is one; digits after the ninth do not count. -/
def readFraction : Reader Nat := fun s =>
  match s with
  | '.' :: rest =>
    let digits := rest.takeWhile Char.isDigit
    let kept := digits.take 9
    (readNat? 10 kept).map fun n => (n * Nat.pow 10 (9 - kept.length), rest.drop digits.length)
  | _ => some (0, s)

/-- Hour, minute, second and nanosecond. -/
def readTime : Reader (Nat × Nat × Nat × Nat) := do
  skipBlanks
  let hour ← readNumber 2
  skipBlanks
  expect ':'
  skipBlanks
  let minute ← readNumber 2
  skipBlanks
  expect ':'
  skipBlanks
  let second ← readNumber 2
  let nanos ← readFraction
  return (hour, minute, second, nanos)

/-- Exactly two digits. -/
def readTwoDigits : Reader Nat := fun s =>
  match s with
  | a :: b :: rest => (readNat? 10 [a, b]).map (·, rest)
  | _ => none

/-- The signed offset in seconds: two digits for hours and two for minutes. -/
def readOffset : Reader Int := do
  let sign : Int ← fun s => match s with
    | '+' :: rest => some (1, rest)
    | '-' :: rest => some (-1, rest)
    | '\u2212' :: rest => some (-1, rest)
    | _ => none
  let hours ← readTwoDigits
  modify fun s => s.dropWhile fun c => c = ':' || isBlank c
  let minutes ← readTwoDigits
  if minutes < 60 then return sign * (hours * 3600 + minutes * 60 : Nat) else failure

/-- The offset from universal time, in seconds. -/
def readZone : Reader Int := fun s =>
  match s with
  | c :: rest =>
    if (s.take 3).map Char.toUpper = ['U', 'T', 'C'] then some (0, s.drop 3)
    else if c = 'Z' ∨ c = 'z' then some (0, rest)
    else readOffset s
  | [] => none

/-- Whether the calendar reaches a year. -/
def isReachable (year : Int) : Bool := -262143 ≤ year && year ≤ 262142

/-- The instant of a date and a time of day at an offset. A second 60 is a leap second. -/
def ofLocal? (date : Date) (hour minute second nanos : Nat) (offset : Int) : Option Instant :=
  if hour < 24 ∧ minute < 60 ∧ second ≤ 60 ∧ date.isValid ∧ isReachable date.year
      ∧ -86400 < offset ∧ offset < 86400 then
    let ofDay := hour * 3600 + minute * 60 + min second 59
    let seconds := date.toDays * 86400 + ofDay - offset
    let total := nanos + if second = 60 then 1000000000 else 0
    if h : total < 1000000000 ∨ seconds % 60 = 59 ∧ total < 2000000000 then
      if isReachable (Date.ofDays (seconds / 86400)).year then
        some { seconds, nanos := total, nanos_lt := h }
      else none
    else none
  else none

def readInstant : Reader Instant := do
  let date ← readDate
  readSeparator
  let (hour, minute, second, nanos) ← readTime
  skipBlanks
  let offset ← readZone
  skipBlanks
  match ofLocal? date hour minute second nanos offset with
  | some i => return i
  | none => failure

/-- Reads a text that holds an instant and nothing else. -/
def read? (s : String) : Option Instant :=
  match readInstant s.toList with
  | some (i, []) => some i
  | _ => none

end Bailiwick.Instant
