/-!
Days of the civil calendar. Years are counted from March here, so that a leap day ends a year of four, a
century or a cycle of 400 years, and a day number is a number in mixed radix.
-/

namespace Bailiwick.Calendar

structure Date where
  year : Int
  month : Nat
  day : Nat
  deriving DecidableEq, Repr

def isLeapYear (year : Int) : Bool := year % 4 = 0 && (year % 100 ≠ 0 || year % 400 = 0)

def daysInMonth (year : Int) (month : Nat) : Nat :=
  if month = 2 then (if isLeapYear year then 29 else 28)
  else if month = 4 || month = 6 || month = 9 || month = 11 then 30
  else 31

/-- Whether a date exists. -/
def Date.isValid (date : Date) : Bool :=
  1 ≤ date.month && date.month ≤ 12 && 1 ≤ date.day && date.day ≤ daysInMonth date.year date.month

/-- Days from the first of March of year 0 to the start of 1970. -/
def epochOffset : Int := 719468

/-- The number of a day, counted from the start of 1970. -/
def Date.toDays (date : Date) : Int :=
  let year := if date.month ≤ 2 then date.year - 1 else date.year
  let month := if date.month ≤ 2 then date.month + 9 else date.month - 3
  let ofCycle := (year % 400).toNat
  year / 400 * 146097 + (ofCycle / 100 * 36524 + ofCycle % 100 / 4 * 1461 + ofCycle % 4 * 365
    + ((153 * month + 2) / 5 + date.day - 1) : Nat) - epochOffset

/-- The date of a day with a given number. -/
def Date.ofDays (days : Int) : Date :=
  let shifted := days + epochOffset
  let ofCycle := (shifted % 146097).toNat
  let century := min 3 (ofCycle / 36524)
  let ofCentury := ofCycle - century * 36524
  let quad := ofCentury / 1461
  let ofQuad := ofCentury - quad * 1461
  let single := min 3 (ofQuad / 365)
  let ofYear := ofQuad - single * 365
  let month := (5 * ofYear + 2) / 153
  let year := shifted / 146097 * 400 + (century * 100 + quad * 4 + single : Nat)
  {
    year := if month < 10 then year else year + 1
    month := if month < 10 then month + 3 else month - 9
    day := ofYear - (153 * month + 2) / 5 + 1 }

end Bailiwick.Calendar
