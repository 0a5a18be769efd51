import Bailiwick.Instant.Text
import Bailiwick.Proofs.Instant.Calendar
import Bailiwick.Proofs.Numeral

/-!
Instants of the years 0 to 9999 are read back from their text. Each reader takes from the front of a text what was
written for it; a leap second is shown as second 60, which only the last second of a minute can be.
-/

namespace Bailiwick.Instant

open Text Calendar

/-- The years that are written in four digits. -/
def InFourDigits (i : Instant) : Prop :=
  0 ≤ (Date.ofDays (i.seconds / 86400)).year ∧ (Date.ofDays (i.seconds / 86400)).year ≤ 9999

instance (i : Instant) : Decidable i.InFourDigits := inferInstanceAs (Decidable (_ ∧ _))

section Readers

variable {α β : Type} {s t : List Char} {width n : Nat}

theorem bind_of_some {x : Reader α} {f : α → Reader β} {a : α} (h : x s = some (a, t)) : (x >>= f) s = f a t := by
  change (x s).bind _ = _
  rw [h]
  rfl

theorem skipBlanks_cons {c : Char} (hc : isBlank c = false) (s : List Char) :
    skipBlanks (c :: s) = some ((), c :: s) := by
  change some ((), (c :: s).dropWhile isBlank) = _
  rw [List.dropWhile_cons_of_neg (by rw [hc]; exact Bool.false_ne_true)]

theorem expect_cons (c : Char) (s : List Char) : expect c (c :: s) = some ((), s) := if_pos rfl

theorem exists_showPadded_cons (hwidth : 0 < width) (n : Nat) :
    ∃ d < 10, ∃ rest, showPadded 10 width n = digitOf d :: rest := by
  have hne : showPadded 10 width n ≠ [] := by
    rw [← List.length_pos_iff, length_showPadded]
    exact hwidth
  obtain ⟨c, rest, hcons⟩ := List.exists_cons_of_ne_nil hne
  have hnumeral : IsNumeral 10 (showPadded 10 width n) := isNumeral_showPadded (by decide) width n
  obtain ⟨d, hd, rfl⟩ := hnumeral c (hcons ▸ List.mem_cons_self)
  exact ⟨d, hd, rest, hcons⟩

theorem skipBlanks_showPadded (hwidth : 0 < width) (n : Nat) (s : List Char) :
    skipBlanks (showPadded 10 width n ++ s) = some ((), showPadded 10 width n ++ s) := by
  have hall : ∀ d < 10, isBlank (digitOf d) = false := by decide
  obtain ⟨d, hd, rest, hcons⟩ := exists_showPadded_cons hwidth n
  rw [hcons, List.cons_append, skipBlanks_cons (hall d hd)]

theorem takeWhile_isDigit (hs : IsNumeral 10 s) (t : List Char) :
    (s ++ t).takeWhile Char.isDigit = s ++ t.takeWhile Char.isDigit :=
  List.takeWhile_append_of_pos hs.isDigit

theorem readNumber_showPadded (hwidth : 0 < width) (h : n < 10 ^ width) (s : List Char) :
    readNumber width (showPadded 10 width n ++ s) = some (n, s) := by
  have hlength := length_showPadded 10 width n
  have hdigits : (showPadded 10 width n).takeWhile Char.isDigit = showPadded 10 width n := by
    have hall := takeWhile_isDigit (isNumeral_showPadded (by decide) width n) []
    rwa [List.append_nil, List.takeWhile_nil, List.append_nil] at hall
  have hnumber : readNat? 10 (showPadded 10 width n) = some n :=
    readNat?_showPadded (by decide) (by decide) hwidth h
  rw [readNumber]
  simp only [List.take_left' hlength, hdigits, hnumber, hlength, List.drop_left' hlength, Option.map_some]

theorem readYear_showYear {year : Int} (h : 0 ≤ year ∧ year ≤ 9999) (s : List Char) :
    readYear (showYear year ++ s) = some (year, s) := by
  obtain ⟨d, hd, rest, hcons⟩ := exists_showPadded_cons (Nat.succ_pos 3) year.toNat
  have hsign : ∀ d < 10, digitOf d ≠ '-' ∧ digitOf d ≠ '+' := by decide
  have hnumber : readNumber 4 (showPadded 10 4 year.toNat ++ s) = some (year.toNat, s) :=
    readNumber_showPadded (by decide) (by omega) s
  rw [showYear, if_pos h]
  rw [hcons, List.cons_append] at hnumber ⊢
  rw [readYear]
  · rw [hnumber]
    change some ((year.toNat : Int), s) = _
    rw [Int.toNat_of_nonneg h.1]
  · rintro more heq
    exact (hsign d hd).1 (List.cons.inj heq).1
  · rintro more heq
    exact (hsign d hd).2 (List.cons.inj heq).1

theorem skipBlanks_showYear {year : Int} (h : 0 ≤ year ∧ year ≤ 9999) (s : List Char) :
    skipBlanks (showYear year ++ s) = some ((), showYear year ++ s) := by
  rw [showYear, if_pos h]
  exact skipBlanks_showPadded (by decide) year.toNat s

theorem readDate_showDate {date : Date} (hyear : 0 ≤ date.year ∧ date.year ≤ 9999) (hmonth : date.month < 100)
    (hday : date.day < 100) (s : List Char) : readDate (showDate date ++ s) = some (date, s) := by
  have hhyphen : isBlank '-' = false := by decide
  rw [readDate, showDate]
  simp only [List.append_assoc, List.cons_append]
  rw [bind_of_some (skipBlanks_showYear hyear _), bind_of_some (readYear_showYear hyear _),
    bind_of_some (skipBlanks_cons hhyphen _), bind_of_some (expect_cons _ _),
    bind_of_some (skipBlanks_showPadded (by decide) _ _), bind_of_some (readNumber_showPadded (by decide) hmonth _),
    bind_of_some (skipBlanks_cons hhyphen _), bind_of_some (expect_cons _ _),
    bind_of_some (skipBlanks_showPadded (by decide) _ _), bind_of_some (readNumber_showPadded (by decide) hday _)]
  rfl

/-- Digits behind a point are read as nanoseconds, according to how many they are. -/
theorem readFraction_showPadded (hwidth : 0 < width) (hle : width ≤ 9) (h : n < 10 ^ width) {c : Char}
    (hdigit : c.isDigit = false) (s : List Char) :
    readFraction ('.' :: (showPadded 10 width n ++ c :: s)) = some (n * 10 ^ (9 - width), c :: s) := by
  have hlength := length_showPadded 10 width n
  have hdigits : (showPadded 10 width n ++ c :: s).takeWhile Char.isDigit = showPadded 10 width n := by
    rw [takeWhile_isDigit (isNumeral_showPadded (by decide) width n),
      List.takeWhile_cons_of_neg (by rw [hdigit]; exact Bool.false_ne_true), List.append_nil]
  have hkept : (showPadded 10 width n).take 9 = showPadded 10 width n :=
    List.take_of_length_le (by rw [hlength]; exact hle)
  have hnumber : readNat? 10 (showPadded 10 width n) = some n :=
    readNat?_showPadded (by decide) (by decide) hwidth h
  rw [readFraction]
  simp only [hdigits, hkept, hnumber, hlength, List.drop_left' hlength, Option.map_some]
  rfl

/-- The fewest digits that are exact give the nanoseconds back. -/
theorem readFraction_showFraction {nanos : Nat} (h : nanos < 1000000000) {c : Char} (hpoint : c ≠ '.')
    (hdigit : c.isDigit = false) (s : List Char) :
    readFraction (showFraction nanos ++ c :: s) = some (nanos, c :: s) := by
  rw [showFraction]
  split
  · next hnone =>
      rw [hnone, List.nil_append, readFraction]
      rintro rest heq
      exact hpoint (List.cons.inj heq).1
  · split
    · rw [List.cons_append, readFraction_showPadded (by decide) (by decide) (by omega) hdigit]
      congr 2
      omega
    · split
      · rw [List.cons_append, readFraction_showPadded (by decide) (by decide) (by omega) hdigit]
        congr 2
        omega
      · rw [List.cons_append, readFraction_showPadded (by decide) (by decide) (by omega) hdigit]
        congr 2
        omega

theorem readTime_append (hour minute second nanos : Nat) (hhour : hour < 100) (hminute : minute < 100)
    (hsecond : second < 100) (hnanos : nanos < 1000000000) {c : Char} (hpoint : c ≠ '.')
    (hdigit : c.isDigit = false) (s : List Char) :
    readTime (showPadded 10 2 hour ++ ':' :: (showPadded 10 2 minute ++ ':' :: (showPadded 10 2 second ++
      (showFraction nanos ++ c :: s)))) = some ((hour, minute, second, nanos), c :: s) := by
  have hcolon : isBlank ':' = false := by decide
  rw [readTime, bind_of_some (skipBlanks_showPadded (by decide) _ _),
    bind_of_some (readNumber_showPadded (by decide) hhour _), bind_of_some (skipBlanks_cons hcolon _),
    bind_of_some (expect_cons _ _), bind_of_some (skipBlanks_showPadded (by decide) _ _),
    bind_of_some (readNumber_showPadded (by decide) hminute _), bind_of_some (skipBlanks_cons hcolon _),
    bind_of_some (expect_cons _ _), bind_of_some (skipBlanks_showPadded (by decide) _ _),
    bind_of_some (readNumber_showPadded (by decide) hsecond _),
    bind_of_some (readFraction_showFraction hnanos hpoint hdigit s)]
  rfl

end Readers

/-- The second that is shown and the nanoseconds of its fraction are those of the instant; only a leap second is the
sixtieth of its minute. -/
theorem leap_parts (i : Instant) :
    (i.seconds % 86400).toNat % 60 + i.nanos / 1000000000 ≤ 60 ∧
      min ((i.seconds % 86400).toNat % 60 + i.nanos / 1000000000) 59 = (i.seconds % 86400).toNat % 60 ∧
      (i.nanos % 1000000000 + if (i.seconds % 86400).toNat % 60 + i.nanos / 1000000000 = 60 then 1000000000 else 0)
        = i.nanos := by
  have hnanos := i.nanos_lt
  refine ⟨by omega, by omega, ?_⟩
  split <;> omega

/-- The date and the time of day that are shown are those of the instant. -/
theorem ofLocal?_parts (i : Instant) (h : i.InFourDigits) :
    ofLocal? (Date.ofDays (i.seconds / 86400)) ((i.seconds % 86400).toNat / 3600)
      ((i.seconds % 86400).toNat / 60 % 60) ((i.seconds % 86400).toNat % 60 + i.nanos / 1000000000)
      (i.nanos % 1000000000) 0 = some i := by
  obtain ⟨hle, hmin, htotal⟩ := i.leap_parts
  have hreach : isReachable (Date.ofDays (i.seconds / 86400)).year = true := by
    have hlow := h.1
    have hhigh := h.2
    simp only [isReachable, Bool.and_eq_true, decide_eq_true_eq]
    omega
  have hseconds : (i.seconds / 86400) * 86400 + (((i.seconds % 86400).toNat / 3600 * 3600
      + (i.seconds % 86400).toNat / 60 % 60 * 60 + (i.seconds % 86400).toNat % 60 : Nat) : Int) - 0 = i.seconds := by
    omega
  rw [ofLocal?, if_pos ⟨by omega, by omega, hle, isValid_ofDays _, hreach, by decide, by decide⟩]
  simp only [toDays_ofDays, hmin, htotal, hseconds]
  rw [dif_pos i.nanos_lt, if_pos hreach]

/-- An instant is read back from its text. -/
theorem read?_text (i : Instant) (h : i.InFourDigits) : read? i.text = some i := by
  have hvalid := isValid_ofDays (i.seconds / 86400)
  simp only [Date.isValid, Bool.and_eq_true, decide_eq_true_eq] at hvalid
  have hday : daysInMonth (Date.ofDays (i.seconds / 86400)).year (Date.ofDays (i.seconds / 86400)).month < 100 := by
    simp only [daysInMonth]
    split
    · split <;> decide
    · split <;> decide
  have hle := i.leap_parts.1
  have hdate (s : List Char) : readDate (showDate (Date.ofDays (i.seconds / 86400)) ++ s)
      = some (Date.ofDays (i.seconds / 86400), s) := readDate_showDate h (by omega) (by omega) s
  have htime := readTime_append ((i.seconds % 86400).toNat / 3600) ((i.seconds % 86400).toNat / 60 % 60)
    ((i.seconds % 86400).toNat % 60 + i.nanos / 1000000000) (i.nanos % 1000000000) (c := 'Z')
    (by omega) (by omega) (by omega) (by omega) (by decide) (by decide) []
  have hzone : readZone ['Z'] = some (0, []) := by rfl
  have hseparator (s : List Char) : readSeparator ('T' :: s) = some ((), s) := rfl
  have hend : skipBlanks [] = some ((), []) := rfl
  have hread : readInstant i.render = some (i, []) := by
    rw [readInstant, render, bind_of_some (hdate _), bind_of_some (hseparator _), bind_of_some htime]
    dsimp only
    rw [bind_of_some (skipBlanks_cons (c := 'Z') (by decide) []), bind_of_some hzone, bind_of_some hend,
      i.ofLocal?_parts h]
    rfl
  rw [read?, text, String.toList_ofList, hread]

end Bailiwick.Instant
