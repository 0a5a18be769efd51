import Bailiwick.Instant.Calendar

/-!
The date of a day exists and has the number of that day. A day number is taken apart into cycles of 400 years, centuries,
spans of four years, years and days, of which only the last century of a cycle and the last year of a span may have a day
more than the others.
-/

namespace Bailiwick.Calendar

/-- The place of a day in a cycle of 400 years that begins in March, by centuries, spans of four years, years and
days. -/
structure Place where
  century : Nat
  quad : Nat
  single : Nat
  ofYear : Nat

/-- The place of a day with a number within its cycle. -/
def Place.ofDay (ofCycle : Nat) : Place :=
  let century := min 3 (ofCycle / 36524)
  let ofCentury := ofCycle - century * 36524
  let quad := ofCentury / 1461
  let ofQuad := ofCentury - quad * 1461
  let single := min 3 (ofQuad / 365)
  { century, quad, single, ofYear := ofQuad - single * 365 }

namespace Place

variable {ofCycle : Nat}

def year (p : Place) : Nat := p.century * 100 + p.quad * 4 + p.single

/-- The month, counted from March. -/
def month (p : Place) : Nat := (5 * p.ofYear + 2) / 153

structure InCycle (p : Place) : Prop where
  century_le : p.century ≤ 3
  quad_le : p.quad ≤ 24
  single_le : p.single ≤ 3
  ofYear_le : p.ofYear ≤ 365
  /-- Only the last year of a span has a leap day, and of the last spans of the centuries only the last. -/
  leap : p.ofYear = 365 → p.single = 3 ∧ (p.quad = 24 → p.century = 3)

theorem inCycle_ofDay (h : ofCycle < 146097) : (ofDay ofCycle).InCycle where
  century_le := Nat.min_le_left _ _
  quad_le := by simp only [ofDay]; omega
  single_le := Nat.min_le_left _ _
  ofYear_le := by simp only [ofDay]; omega
  leap := by simp only [ofDay]; omega

theorem day_ofDay (ofCycle : Nat) :
    (ofDay ofCycle).century * 36524 + (ofDay ofCycle).quad * 1461 + (ofDay ofCycle).single * 365
      + (ofDay ofCycle).ofYear = ofCycle := by
  simp only [ofDay]
  omega

theorem month_le {p : Place} (h : p.InCycle) : p.month ≤ 11 := by
  have := h.ofYear_le
  rw [month]
  omega

theorem year_lt {p : Place} (h : p.InCycle) : p.year < 400 := by
  have := h.century_le
  have := h.quad_le
  have := h.single_le
  rw [year]
  omega

end Place

variable (days : Int)

/-- The place of a day in its cycle. -/
def placeOf : Place := .ofDay ((days + epochOffset) % 146097).toNat

/-- The year of a day, counted from March. -/
def yearOf : Int := (days + epochOffset) / 146097 * 400 + ((placeOf days).year : Nat)

theorem ofDays_eq : Date.ofDays days = {
    year := if (placeOf days).month < 10 then yearOf days else yearOf days + 1
    month := if (placeOf days).month < 10 then (placeOf days).month + 3 else (placeOf days).month - 9
    day := (placeOf days).ofYear - (153 * (placeOf days).month + 2) / 5 + 1 } := rfl

theorem inCycle_placeOf : (placeOf days).InCycle := Place.inCycle_ofDay (by omega)

/-- The number of a date whose year and month are counted from March. -/
def dayOf (year : Int) (month day : Nat) : Int :=
  let ofCycle := (year % 400).toNat
  year / 400 * 146097 + (ofCycle / 100 * 36524 + ofCycle % 100 / 4 * 1461 + ofCycle % 4 * 365
    + ((153 * month + 2) / 5 + day - 1) : Nat) - epochOffset

theorem dayOf_yearOf (days : Int) :
    dayOf (yearOf days) (placeOf days).month
      ((placeOf days).ofYear - (153 * (placeOf days).month + 2) / 5 + 1) = days := by
  have hplace := inCycle_placeOf days
  have hcentury := hplace.century_le
  have hquad := hplace.quad_le
  have hsingle := hplace.single_le
  have hyear : (yearOf days % 400).toNat = (placeOf days).year := by
    have := Place.year_lt hplace
    rw [yearOf]
    omega
  have hcycle : yearOf days / 400 = (days + epochOffset) / 146097 := by
    have := Place.year_lt hplace
    rw [yearOf]
    omega
  have hmonth : (153 * (placeOf days).month + 2) / 5 ≤ (placeOf days).ofYear := by
    rw [Place.month]
    omega
  have hday := Place.day_ofDay ((days + epochOffset) % 146097).toNat
  rw [← placeOf.eq_def] at hday
  have h100 : (placeOf days).year / 100 = (placeOf days).century := by rw [Place.year]; omega
  have h4 : (placeOf days).year % 100 / 4 = (placeOf days).quad := by rw [Place.year]; omega
  have h1 : (placeOf days).year % 4 = (placeOf days).single := by rw [Place.year]; omega
  rw [dayOf, hcycle]
  simp only [hyear, h100, h4, h1]
  omega

/-- A date has the number of the day that it is the date of. -/
theorem toDays_ofDays (days : Int) : (Date.ofDays days).toDays = days := by
  have hmonth := Place.month_le (inCycle_placeOf days)
  have hback := dayOf_yearOf days
  rw [dayOf] at hback
  rw [ofDays_eq, Date.toDays]
  by_cases hlate : (placeOf days).month < 10
  · have hnot : ¬ (placeOf days).month + 3 ≤ 2 := by omega
    simp only [if_pos hlate, if_neg hnot, Nat.add_sub_cancel]
    exact hback
  · have hle : (placeOf days).month - 9 ≤ 2 := by omega
    have hsame : (placeOf days).month - 9 + 9 = (placeOf days).month := by omega
    simp only [if_neg hlate, if_pos hle, hsame, Int.add_sub_cancel]
    exact hback

/-- The months from March to January have the lengths that their first days say. -/
theorem daysInMonth_of_lt (year : Int) {month : Nat} (h : month < 11) :
    daysInMonth year (if month < 10 then month + 3 else month - 9)
      = (153 * (month + 1) + 2) / 5 - (153 * month + 2) / 5 := by
  match month, h with
  | 0, _ | 1, _ | 2, _ | 3, _ | 4, _ | 5, _ | 6, _ | 7, _ | 8, _ | 9, _ | 10, _ => rfl

/-- A year with a leap day is a leap year. -/
theorem isLeapYear_of_leapDay {days : Int} (h : (placeOf days).ofYear = 365) :
    isLeapYear (yearOf days + 1) = true := by
  have hplace := inCycle_placeOf days
  have hcentury := hplace.century_le
  have hquad := hplace.quad_le
  obtain ⟨hsingle, hlast⟩ := hplace.leap h
  have hyear : (placeOf days).year = (placeOf days).century * 100 + (placeOf days).quad * 4 + 3 := by
    rw [Place.year, hsingle]
  simp only [isLeapYear, yearOf, hyear, Bool.and_eq_true, Bool.or_eq_true, decide_eq_true_eq]
  by_cases hq : (placeOf days).quad = 24
  · have := hlast hq
    omega
  · omega

/-- The date of a day exists. -/
theorem isValid_ofDays (days : Int) : (Date.ofDays days).isValid = true := by
  have hplace := inCycle_placeOf days
  have hmonth := Place.month_le hplace
  have hofYear := hplace.ofYear_le
  have hstart : (placeOf days).month = (5 * (placeOf days).ofYear + 2) / 153 := rfl
  rw [ofDays_eq, Date.isValid]
  simp only [Bool.and_eq_true, decide_eq_true_eq]
  refine ⟨⟨⟨by split <;> omega, by split <;> omega⟩, Nat.le_add_left 1 _⟩, ?_⟩
  rcases Nat.eq_or_lt_of_le hmonth with hlast | hearlier
  · -- February has the rest of the year.
    rw [hlast]
    change (placeOf days).ofYear - 337 + 1 ≤ if isLeapYear (yearOf days + 1) then 29 else 28
    by_cases hleap : (placeOf days).ofYear = 365
    · rw [isLeapYear_of_leapDay hleap, hleap]
      decide
    · split <;> omega
  · rw [daysInMonth_of_lt _ hearlier]
    omega

end Bailiwick.Calendar
