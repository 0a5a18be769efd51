import Bailiwick.Proofs.Numeral
import Bailiwick.Uuid

/-!
Identifiers that are written are read back: the hyphens fall out again, and 32 digits are enough for 128 bits.
-/

namespace Bailiwick.Uuid

open Text

theorem filter_hyphenate {digits : List Char} (h : '-' ∉ digits) :
    (hyphenate digits).filter (· ≠ '-') = digits := by
  have hkept (n m : Nat) : ((digits.drop n).take m).filter (· ≠ '-') = (digits.drop n).take m := by
    refine List.filter_eq_self.2 fun c hc => decide_eq_true ?_
    rintro rfl
    exact h (List.mem_of_mem_drop (List.mem_of_mem_take hc))
  have hfirst := hkept 0 8
  have hlast := hkept 20 digits.length
  rw [List.take_of_length_le (by rw [List.length_drop]; omega)] at hlast
  rw [List.drop_zero] at hfirst
  have hjoin (n m : Nat) : (digits.drop n).take m ++ digits.drop (n + m) = digits.drop n := by
    rw [← List.drop_drop, List.take_append_drop]
  have hhyphen (rest : List Char) : ('-' :: rest).filter (· ≠ '-') = rest.filter (· ≠ '-') := rfl
  rw [hyphenate]
  simp only [List.filter_append, hhyphen, hfirst, hkept, hlast]
  rw [hjoin 16 4, hjoin 12 4, hjoin 8 4, List.take_append_drop]

theorem length_hyphenate {digits : List Char} (h : digits.length = 32) : (hyphenate digits).length = 36 := by
  simp [hyphenate, h]

/-- An identifier is read back from its text. -/
theorem read?_text (id : Uuid) : read? id.text = some id := by
  have hdigits : (showPadded 16 32 id.toNat).length = 32 := length_showPadded 16 32 id.toNat
  have hhyphen : '-' ∉ showPadded 16 32 id.toNat :=
    (isNumeral_showPadded (by decide) 32 id.toNat).notMem (by decide) (by decide)
  have hlength : id.render.length = 36 := length_hyphenate hdigits
  have hunwrap : unwrap? id.render = none := by
    rw [unwrap?, hlength, if_neg (fun h => absurd h.1 (by decide)), if_neg (fun h => absurd h.1 (by decide))]
  have hnumber : readNat? 16 (showPadded 16 32 id.toNat) = some id.toNat :=
    readNat?_showPadded (by decide) (by decide) (by decide) id.bits.isLt
  have hback : ofNat id.toNat = id := congrArg Uuid.mk (BitVec.ofNat_toNat 128 id.bits)
  rw [read?, text, String.toList_ofList]
  simp only [hunwrap, hlength]
  rw [if_neg (by decide), readHyphenated?, render, filter_hyphenate hhyphen, if_pos rfl, readDigits?,
    if_pos hdigits, hnumber, Option.map_some, hback]

end Bailiwick.Uuid
