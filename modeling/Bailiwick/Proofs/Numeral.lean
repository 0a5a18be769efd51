import Bailiwick.Text.Blank
import Bailiwick.Text.Numeral
import Mathlib.Algebra.Group.Nat.Defs
import Mathlib.Data.List.Forall2
import Mathlib.Data.List.Induction
import Mathlib.Data.Nat.Digits.Defs

/-!
Numerals that are written are read back. What is written consists of digits of its base, so it holds no separator; a
number without leading zeros is as short as its size allows, and is written in no other way. What is read are the
numerals of the base, with letters in either case, for the numbers that they stand for.
-/

namespace Bailiwick.Text

variable {base : Nat}

theorem digitValue_digitOf {d : Nat} (h : d < 36) : digitValue (digitOf d) = some d := by
  have hall : ∀ d < 36, digitValue (digitOf d) = some d := by decide
  exact hall d h

theorem isDigit_digitOf {d : Nat} (h : d < 10) : (digitOf d).isDigit = true := by
  have hall : ∀ d < 10, (digitOf d).isDigit = true := by decide
  exact hall d h

/-- A text of digits of a base. -/
def IsNumeral (base : Nat) (s : List Char) : Prop := ∀ c ∈ s, ∃ d < base, c = digitOf d

namespace IsNumeral

variable {s t : List Char}

theorem append (hs : IsNumeral base s) (ht : IsNumeral base t) : IsNumeral base (s ++ t) := by
  intro c hc
  rcases List.mem_append.1 hc with h | h
  · exact hs c h
  · exact ht c h

theorem digit {d : Nat} (h : d < base) : IsNumeral base [digitOf d] := by
  intro c hc
  exact ⟨d, h, List.mem_singleton.1 hc⟩

/-- What has no value as a digit stands in no numeral. -/
theorem notMem (hs : IsNumeral base s) (hbase : base ≤ 36) {c : Char} (hc : digitValue c = none) : c ∉ s := by
  intro hmem
  obtain ⟨d, hd, rfl⟩ := hs c hmem
  rw [digitValue_digitOf (Nat.lt_of_lt_of_le hd hbase)] at hc
  cases hc

theorem isDigit (hs : IsNumeral 10 s) : ∀ c ∈ s, c.isDigit = true := by
  intro c hc
  obtain ⟨d, hd, rfl⟩ := hs c hc
  exact isDigit_digitOf hd

end IsNumeral

theorem readDigits_append (base number : Nat) (s t : List Char) :
    readDigits base number (s ++ t) = (readDigits base number s).bind fun n => readDigits base n t := by
  induction s generalizing number with
  | nil => rfl
  | cons c rest ih =>
      rw [List.cons_append, readDigits, readDigits]
      cases digitValue c with
      | none => rfl
      | some d =>
          change (if d < base then readDigits base (number * base + d) (rest ++ t) else none)
            = (if d < base then readDigits base (number * base + d) rest else none).bind _
          by_cases hd : d < base
          · rw [if_pos hd, if_pos hd, ih]
          · rw [if_neg hd, if_neg hd]
            rfl

theorem readDigits_digit (hbase : base ≤ 36) {d : Nat} (h : d < base) (number : Nat) :
    readDigits base number [digitOf d] = some (number * base + d) := by
  rw [readDigits, digitValue_digitOf (Nat.lt_of_lt_of_le h hbase)]
  exact if_pos h

theorem readDigits_showPadded (hpos : 0 < base) (hbase : base ≤ 36) {width n : Nat} (h : n < base ^ width)
    (number : Nat) :
    readDigits base number (showPadded base width n) = some (number * base ^ width + n) := by
  induction width generalizing n with
  | zero =>
      obtain rfl : n = 0 := Nat.lt_one_iff.1 h
      rw [Nat.pow_zero, Nat.mul_one]
      rfl
  | succ width ih =>
      have hquot : n / base < base ^ width := Nat.div_lt_of_lt_mul (by rwa [Nat.mul_comm, ← Nat.pow_succ])
      rw [showPadded, readDigits_append, ih hquot, Option.bind_some, readDigits_digit hbase (Nat.mod_lt n hpos),
        Nat.add_mul, Nat.mul_assoc, ← Nat.pow_succ, Nat.add_assoc, Nat.div_add_mod']

/-- What is read as a number consists of digits. -/
theorem digitValue_ne_none_of_readDigits {number n : Nat} {s : List Char} (h : readDigits base number s = some n) :
    ∀ c ∈ s, digitValue c ≠ none := by
  induction s generalizing number with
  | nil => exact fun c hc => absurd hc List.not_mem_nil
  | cons c rest ih =>
      rw [readDigits] at h
      obtain ⟨d, hd, hrest⟩ := Option.bind_eq_some_iff.1 h
      split at hrest
      · intro c' hc'
        rcases List.mem_cons.1 hc' with rfl | hlater
        · rw [hd]
          exact nofun
        · exact ih hrest c' hlater
      · cases hrest

theorem digitValue_ne_none_of_readNat? {n : Nat} {s : List Char} (h : readNat? base s = some n) :
    ∀ c ∈ s, digitValue c ≠ none := by
  rw [readNat?] at h
  split at h
  · cases h
  · exact digitValue_ne_none_of_readDigits h

theorem length_showPadded (base width n : Nat) : (showPadded base width n).length = width := by
  induction width generalizing n with
  | zero => rfl
  | succ width ih => rw [showPadded, List.length_append, ih, List.length_singleton]

theorem isNumeral_showPadded (hpos : 0 < base) (width n : Nat) : IsNumeral base (showPadded base width n) := by
  induction width generalizing n with
  | zero => exact fun c hc => absurd hc List.not_mem_nil
  | succ width ih => exact (ih (n / base)).append (.digit (Nat.mod_lt n hpos))

theorem readNat?_of_ne_nil {s : List Char} (h : s ≠ []) : readNat? base s = readDigits base 0 s := by
  rw [readNat?, if_neg (by rwa [List.isEmpty_iff])]

/-- A number written with enough digits is read back. -/
theorem readNat?_showPadded (hpos : 0 < base) (hbase : base ≤ 36) {width n : Nat} (hwidth : 0 < width)
    (h : n < base ^ width) : readNat? base (showPadded base width n) = some n := by
  have hne : showPadded base width n ≠ [] := by
    rw [← List.length_pos_iff, length_showPadded]
    exact hwidth
  rw [readNat?_of_ne_nil hne, readDigits_showPadded hpos hbase h, Nat.zero_mul, Nat.zero_add]

theorem digitsOf_of_ne_zero (hbase : 2 ≤ base) {n : Nat} (h : n ≠ 0) :
    digitsOf base n = digitsOf base (n / base) ++ [digitOf (n % base)] := by
  rw [digitsOf, dif_neg (by omega)]

theorem digitsOf_zero (base : Nat) : digitsOf base 0 = [] := by rw [digitsOf, dif_pos (.inl rfl)]

theorem readDigits_digitsOf (hbase : 2 ≤ base) (hle : base ≤ 36) (n : Nat) :
    readDigits base 0 (digitsOf base n) = some n := by
  induction n using Nat.strongRecOn with
  | ind n ih =>
      by_cases hn : n = 0
      · rw [hn, digitsOf_zero]
        rfl
      · have hlt : n / base < n := Nat.div_lt_self (Nat.pos_of_ne_zero hn) hbase
        rw [digitsOf_of_ne_zero hbase hn, readDigits_append, ih _ hlt, Option.bind_some,
          readDigits_digit hle (Nat.mod_lt n (by omega)), Nat.div_add_mod']

theorem isNumeral_digitsOf (hbase : 2 ≤ base) (n : Nat) : IsNumeral base (digitsOf base n) := by
  induction n using Nat.strongRecOn with
  | ind n ih =>
      by_cases hn : n = 0
      · rw [hn, digitsOf_zero]
        exact fun c hc => absurd hc List.not_mem_nil
      · rw [digitsOf_of_ne_zero hbase hn]
        have hlt : n / base < n := Nat.div_lt_self (Nat.pos_of_ne_zero hn) hbase
        exact (ih _ hlt).append (.digit (Nat.mod_lt n (by omega)))

theorem length_digitsOf_le (hbase : 2 ≤ base) {n width : Nat} (h : n < base ^ width) :
    (digitsOf base n).length ≤ width := by
  induction width generalizing n with
  | zero =>
      obtain rfl : n = 0 := Nat.lt_one_iff.1 h
      rw [digitsOf_zero]
      exact Nat.le_refl 0
  | succ width ih =>
      by_cases hn : n = 0
      · rw [hn, digitsOf_zero]
        exact Nat.zero_le _
      · have hquot : n / base < base ^ width := Nat.div_lt_of_lt_mul (by rwa [Nat.mul_comm, ← Nat.pow_succ])
        rw [digitsOf_of_ne_zero hbase hn, List.length_append, List.length_singleton]
        exact Nat.add_le_add_right (ih hquot) 1

theorem digitsOf_eq_nil_iff (hbase : 2 ≤ base) {n : Nat} : digitsOf base n = [] ↔ n = 0 := by
  constructor
  · intro h
    refine Decidable.by_contra fun hn => ?_
    rw [digitsOf_of_ne_zero hbase hn] at h
    exact List.append_ne_nil_of_right_ne_nil _ (List.cons_ne_nil _ _) h
  · rintro rfl
    exact digitsOf_zero base

/-- Written digits do not begin with a zero. -/
theorem head?_digitsOf (hbase : 2 ≤ base) (hle : base ≤ 36) (n : Nat) : (digitsOf base n).head? ≠ some '0' := by
  induction n using Nat.strongRecOn with
  | ind n ih =>
      by_cases hn : n = 0
      · rw [hn, digitsOf_zero]
        exact nofun
      · have hlt : n / base < n := Nat.div_lt_self (Nat.pos_of_ne_zero hn) hbase
        rw [digitsOf_of_ne_zero hbase hn]
        by_cases hquot : n / base = 0
        · have hsmall : n < base := Nat.lt_of_div_eq_zero (by omega) hquot
          have hvalue := digitValue_digitOf (Nat.lt_of_lt_of_le hsmall hle)
          rw [hquot, digitsOf_zero, Nat.mod_eq_of_lt hsmall]
          intro hzero
          rw [Option.some.inj hzero] at hvalue
          exact hn (Option.some.inj hvalue).symm
        · have hne : digitsOf base (n / base) ≠ [] := fun h => hquot ((digitsOf_eq_nil_iff hbase).1 h)
          obtain ⟨c, rest, hdigits⟩ := List.exists_cons_of_ne_nil hne
          have hhead := ih _ hlt
          rw [hdigits] at hhead ⊢
          exact hhead

theorem showNat_ne_nil (hbase : 2 ≤ base) (n : Nat) : showNat base n ≠ [] := by
  rw [showNat]
  split
  · exact List.cons_ne_nil _ _
  · next h => exact fun hnil => h ((digitsOf_eq_nil_iff hbase).1 hnil)

/-- A number is read back from the text without leading zeros. -/
theorem readNat?_showNat (hbase : 2 ≤ base) (hle : base ≤ 36) (n : Nat) :
    readNat? base (showNat base n) = some n := by
  rw [readNat?_of_ne_nil (showNat_ne_nil hbase n), showNat]
  split
  · next h =>
      rw [h]
      change readDigits base 0 [digitOf 0] = some 0
      rw [readDigits_digit hle (by omega), Nat.zero_mul]
  · exact readDigits_digitsOf hbase hle n

theorem isNumeral_showNat (hbase : 2 ≤ base) (n : Nat) : IsNumeral base (showNat base n) := by
  rw [showNat]
  split
  · exact .digit (d := 0) (by omega)
  · exact isNumeral_digitsOf hbase n

theorem not_blank_of_mem_showNat {n : Nat} (hbase : 2 ≤ base) (hle : base ≤ 36) :
    ∀ c ∈ showNat base n, isBlank c = false := by
  have hall : ∀ d < 36, isBlank (digitOf d) = false := by decide
  intro c hc
  obtain ⟨d, hd, rfl⟩ := isNumeral_showNat hbase n c hc
  exact hall d (Nat.lt_of_lt_of_le hd hle)

theorem length_showNat_le (hbase : 2 ≤ base) {n width : Nat} (hwidth : 0 < width) (h : n < base ^ width) :
    (showNat base n).length ≤ width := by
  rw [showNat]
  split
  · exact hwidth
  · exact length_digitsOf_le hbase h

theorem showNat_of_head? (hbase : 2 ≤ base) (hle : base ≤ 36) {n : Nat} (h : (showNat base n).head? = some '0') :
    showNat base n = ['0'] := by
  rw [showNat] at h ⊢
  split at h
  · next hn => rw [if_pos hn]
  · exact absurd h (head?_digitsOf hbase hle n)

/-- A text of digits without leading zeros is what is written for its number. -/
theorem eq_digitsOf_of_readDigits (hbase : 2 ≤ base) (hle : base ≤ 36) {n : Nat} {s : List Char}
    (hs : IsNumeral base s) (hhead : s.head? ≠ some '0') (h : readDigits base 0 s = some n) : s = digitsOf base n := by
  induction s using List.reverseRecOn generalizing n with
  | nil =>
      obtain rfl := Option.some.inj h
      exact (digitsOf_zero base).symm
  | append_singleton front c ih =>
      obtain ⟨d, hd, rfl⟩ := hs c (List.mem_append_right front List.mem_cons_self)
      rw [readDigits_append] at h
      obtain ⟨m, hfront, hlast⟩ := Option.bind_eq_some_iff.1 h
      rw [readDigits_digit hle hd] at hlast
      obtain rfl := Option.some.inj hlast
      have hquot : (m * base + d) / base = m := by
        rw [Nat.mul_comm, Nat.mul_add_div (by omega), Nat.div_eq_of_lt hd, Nat.add_zero]
      have hmod : (m * base + d) % base = d := by
        rw [Nat.mul_comm, Nat.mul_add_mod, Nat.mod_eq_of_lt hd]
      have hm : front = digitsOf base m := by
        refine ih (fun c hc => hs c (List.mem_append_left _ hc)) ?_ hfront
        intro hzero
        rw [List.head?_append, hzero] at hhead
        exact hhead rfl
      have hne : m * base + d ≠ 0 := by
        intro hzero
        obtain ⟨hmul, rfl⟩ := Nat.add_eq_zero_iff.1 hzero
        obtain rfl : m = 0 := (Nat.mul_eq_zero.1 hmul).resolve_right (by omega)
        rw [hm, digitsOf_zero] at hhead
        exact hhead rfl
      rw [digitsOf_of_ne_zero hbase hne, hquot, hmod, ← hm]

theorem eq_showNat_of_readNat? (hbase : 2 ≤ base) (hle : base ≤ 36) {n : Nat} {s : List Char}
    (hs : IsNumeral base s) (hhead : s.head? = some '0' → s = ['0']) (h : readNat? base s = some n) :
    s = showNat base n := by
  by_cases hzero : s.head? = some '0'
  · have hsame : s = showNat base 0 := hhead hzero
    rw [hsame, readNat?_showNat hbase hle] at h
    obtain rfl := Option.some.inj h
    exact hsame
  · have hne : s ≠ [] := by
      rintro rfl
      cases h
    rw [readNat?_of_ne_nil hne] at h
    have hdigits := eq_digitsOf_of_readDigits hbase hle hs hzero h
    have hn : n ≠ 0 := by
      rintro rfl
      rw [digitsOf_zero] at hdigits
      exact hne hdigits
    rw [showNat, if_neg hn]
    exact hdigits

/-- Up to base sixteen a number is written as the library writes it, letters in lower case. -/
theorem showNat_eq_toDigits (hbase : 2 ≤ base) (hle : base ≤ 16) (n : Nat) : showNat base n = Nat.toDigits base n := by
  have hdigit {d : Nat} (hd : d < base) : digitOf d = d.digitChar := by
    have hall : ∀ d < 16, digitOf d = d.digitChar := by decide
    exact hall d (Nat.lt_of_lt_of_le hd hle)
  have hdigits (n : Nat) (hn : n ≠ 0) : digitsOf base n = Nat.toDigits base n := by
    induction n using Nat.strongRecOn with
    | ind n ih =>
        rw [digitsOf_of_ne_zero hbase hn, hdigit (Nat.mod_lt n (by omega))]
        rcases Nat.lt_or_ge n base with hlt | hge
        · rw [Nat.div_eq_of_lt hlt, digitsOf_zero, Nat.mod_eq_of_lt hlt, Nat.toDigits_of_lt_base hlt, List.nil_append]
        · have hquot : n / base ≠ 0 := Nat.ne_of_gt (Nat.div_pos hge (by omega))
          rw [ih _ (Nat.div_lt_self (Nat.pos_of_ne_zero hn) hbase) hquot, Nat.toDigits_of_base_le hbase hge]
  rw [showNat]
  split
  · next hzero => rw [hzero, Nat.toDigits_zero]
  · next hn => exact hdigits n hn

/-! ### What numerals stand for -/

/-- A digit of a base and its value; letters may be in either case. -/
def IsDigit (base : Nat) (c : Char) (d : Nat) : Prop := d < base ∧ (c = d.digitChar ∨ c = d.digitChar.toUpper)

/-- A text of at least one digit of a base, and the number that it stands for. -/
inductive Denotes (base : Nat) (s : List Char) : Nat → Prop
  | digits {digits : List Nat} (hne : s ≠ []) (hdigits : List.Forall₂ (IsDigit base) s digits) :
      Denotes base s (Nat.ofDigits base digits.reverse)

theorem lt_128_of_digitValue {c : Char} {d : Nat} (h : digitValue c = some d) : c.toNat < 128 := by
  have hbound {hi : Char} (hle : c ≤ hi) (hhi : hi.toNat < 128) : c.toNat < 128 :=
    Nat.lt_of_le_of_lt (UInt32.le_iff_toNat_le.1 hle) hhi
  rw [digitValue] at h
  split at h
  · next hc => exact hbound hc.2 (by decide)
  · split at h
    · next hc => exact hbound hc.2 (by decide)
    · split at h
      · next hc => exact hbound hc.2 (by decide)
      · cases h

/-- Up to base sixteen the digits are those of the library, with capitals for the letters as well. -/
theorem isDigit_iff (hle : base ≤ 16) {c : Char} {d : Nat} : IsDigit base c d ↔ digitValue c = some d ∧ d < base := by
  constructor
  · rintro ⟨hd, hc⟩
    have hall : ∀ d < 16, digitValue d.digitChar = some d ∧ digitValue d.digitChar.toUpper = some d := by decide
    have hvalue := hall d (Nat.lt_of_lt_of_le hd hle)
    rcases hc with rfl | rfl
    · exact ⟨hvalue.1, hd⟩
    · exact ⟨hvalue.2, hd⟩
  · rintro ⟨hvalue, hd⟩
    have hall : ∀ n < 128, ∀ d < 16, digitValue (Char.ofNat n) = some d →
        Char.ofNat n = d.digitChar ∨ Char.ofNat n = d.digitChar.toUpper := by decide +kernel
    have hc := hall c.toNat (lt_128_of_digitValue hvalue) d (Nat.lt_of_lt_of_le hd hle)
    rw [Char.ofNat_toNat] at hc
    exact ⟨hd, hc hvalue⟩

/-- Digits go on a number in front of them. -/
theorem ofDigits_append_cons (digits : List Nat) (d number : Nat) :
    Nat.ofDigits base (digits ++ [d, number]) = Nat.ofDigits base (digits ++ [number * base + d]) := by
  have hfront : Nat.ofDigits base [d, number] = Nat.ofDigits base [number * base + d] := by
    rw [Nat.ofDigits_cons, Nat.ofDigits_singleton, Nat.ofDigits_singleton, Nat.mul_comm, Nat.add_comm]
  rw [Nat.ofDigits_append, Nat.ofDigits_append, hfront]

theorem readDigits_eq_some_iff (hle : base ≤ 16) {number n : Nat} {s : List Char} :
    readDigits base number s = some n ↔ ∃ digits, List.Forall₂ (IsDigit base) s digits ∧
      Nat.ofDigits base (digits.reverse ++ [number]) = n := by
  induction s generalizing number with
  | nil =>
      constructor
      · intro h
        obtain rfl := Option.some.inj h
        exact ⟨[], .nil, Nat.ofDigits_singleton⟩
      · rintro ⟨_, ⟨⟩, rfl⟩
        exact congrArg some Nat.ofDigits_singleton.symm
  | cons c rest ih =>
      rw [readDigits]
      constructor
      · intro h
        obtain ⟨d, hvalue, hrest⟩ := Option.bind_eq_some_iff.1 h
        split at hrest
        · next hd =>
            obtain ⟨digits, hdigits, hn⟩ := ih.1 hrest
            refine ⟨d :: digits, .cons ((isDigit_iff hle).2 ⟨hvalue, hd⟩) hdigits, ?_⟩
            rw [List.reverse_cons, List.append_assoc, ← hn]
            exact ofDigits_append_cons digits.reverse d number
        · cases hrest
      · rintro ⟨_, hdigits, hn⟩
        cases hdigits with
        | @cons _ d _ digits hc hdigits =>
            obtain ⟨hvalue, hd⟩ := (isDigit_iff hle).1 hc
            rw [List.reverse_cons, List.append_assoc] at hn
            have hrest := ih.2 ⟨digits, hdigits, (ofDigits_append_cons digits.reverse d number).symm.trans hn⟩
            rw [hvalue]
            exact (if_pos hd).trans hrest

/-- Reading a number is undoing what its digits stand for. -/
theorem readNat?_eq_some_iff (hle : base ≤ 16) {n : Nat} {s : List Char} :
    readNat? base s = some n ↔ Denotes base s n := by
  have hzero (digits : List Nat) : Nat.ofDigits base (digits.reverse ++ [0]) = Nat.ofDigits base digits.reverse := by
    rw [Nat.ofDigits_append, Nat.ofDigits_singleton, Nat.mul_zero, Nat.add_zero]
  constructor
  · intro h
    have hne : s ≠ [] := by
      rintro rfl
      cases h
    rw [readNat?_of_ne_nil hne] at h
    obtain ⟨digits, hdigits, rfl⟩ := (readDigits_eq_some_iff hle).1 h
    rw [hzero]
    exact .digits hne hdigits
  · rintro ⟨hne, hdigits⟩
    rw [readNat?_of_ne_nil hne]
    exact (readDigits_eq_some_iff hle).2 ⟨_, hdigits, hzero _⟩

namespace Denotes

variable {s : List Char} {n : Nat}

/-- So many digits are enough for the number. -/
theorem lt_pow (hbase : 2 ≤ base) (h : Denotes base s n) : n < base ^ s.length := by
  obtain ⟨-, hdigits⟩ := h
  have hlt := ((List.forall₂_and_left (p := (· < base)) _ _).1 hdigits.flip).1
  rw [hdigits.length_eq, ← List.length_reverse]
  exact Nat.ofDigits_lt_base_pow_length hbase fun d hd => hlt d (List.mem_reverse.1 hd)

theorem isNumeral (hle : base ≤ 10) (h : Denotes base s n) : IsNumeral base s := by
  obtain ⟨-, hdigits⟩ := h
  have hall : ∀ d < 10, d.digitChar.toUpper = d.digitChar ∧ d.digitChar = digitOf d := by decide
  refine ((List.forall₂_and_left (R := fun _ _ => True) _ _).1 (hdigits.imp fun c d ⟨hd, hc⟩ => ⟨?_, trivial⟩)).1
  have hdigit := hall d (Nat.lt_of_lt_of_le hd hle)
  rw [hdigit.1, or_self, hdigit.2] at hc
  exact ⟨d, hd, hc⟩

end Denotes

/-- Decimal digits, with or without a plus sign in front of them. -/
inductive Counts : List Char → Nat → Prop
  | plain {s : List Char} {n : Nat} (h : Denotes 10 s n) : Counts s n
  | plus {s : List Char} {n : Nat} (h : Denotes 10 s n) : Counts ('+' :: s) n

theorem readCount?_eq_some_iff {largest n : Nat} {s : List Char} :
    readCount? largest s = some n ↔ Counts s n ∧ n ≤ largest := by
  rw [readCount?.eq_def, Option.filter_eq_some_iff, decide_eq_true_iff, readNat?_eq_some_iff (by decide)]
  refine and_congr_left fun _ => ?_
  split
  · next rest =>
      refine ⟨.plus, fun h => ?_⟩
      cases h with
      | plus h => exact h
      | plain h =>
          have hread := (readNat?_eq_some_iff (by decide)).2 h
          exact absurd (by decide) (digitValue_ne_none_of_readNat? hread '+' List.mem_cons_self)
  · next hplain =>
      refine ⟨.plain, fun h => ?_⟩
      cases h with
      | plain h => exact h
      | plus h => exact absurd rfl (hplain _)

theorem toList_toString (n : Nat) : (toString n).toList = showNat 10 n := by
  rw [showNat_eq_toDigits (by decide) (by decide)]
  exact String.toList_ofList

/-- A number that is written is read as a count. -/
theorem counts_showNat (n : Nat) : Counts (showNat 10 n) n :=
  .plain ((readNat?_eq_some_iff (by decide)).1 (readNat?_showNat (by decide) (by decide) n))

end Bailiwick.Text
