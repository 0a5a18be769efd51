import Bailiwick.Address.V4
import Bailiwick.Proofs.Numeral
import Bailiwick.Proofs.Text

/-!
IPv4 addresses that are written are read back, and only their dotted texts are read as addresses. A text that is read as
one holds digits and dots only.
-/

namespace Bailiwick.IPv4

open Text

theorem readOctet?_showOctet (octet : UInt8) : readOctet? (showOctet octet) = some octet := by
  have hlength : (showOctet octet).length ≤ 3 :=
    length_showNat_le (by decide) (by decide) (Nat.lt_trans octet.toNat_lt (by decide))
  have hzero : ¬ (3 < (showOctet octet).length ∨
      ((showOctet octet).head? = some '0' ∧ showOctet octet ≠ ['0'])) := by
    rintro (hlong | ⟨hhead, hne⟩)
    · omega
    · exact hne (showNat_of_head? (by decide) (by decide) hhead)
  have hnumber : readNat? 10 (showOctet octet) = some octet.toNat := readNat?_showNat (by decide) (by decide) _
  rw [readOctet?, if_neg hzero, hnumber]
  simp only [octet.toNat_lt, if_true, UInt8.ofNat_toNat]

theorem sep_notMem_showOctet (octet : UInt8) {c : Char} (hc : digitValue c = none) : c ∉ showOctet octet :=
  (isNumeral_showNat (by decide) octet.toNat).notMem (by decide) hc

/-- An address is read back from its dotted text. -/
theorem read?_render (ip : IPv4) : read? ip.render = some ip := by
  have hdot : ∀ piece ∈ [showOctet ip.a, showOctet ip.b, showOctet ip.c, showOctet ip.d], '.' ∉ piece := by
    simp only [List.mem_cons, List.not_mem_nil, or_false]
    rintro _ (rfl | rfl | rfl | rfl) <;> exact sep_notMem_showOctet _ (by decide)
  rw [read?, render, splitAt_joinWith (List.cons_ne_nil _ _) hdot]
  simp only [readOctet?_showOctet]
  rfl

theorem digitValue_ne_none_of_readOctet? {s : List Char} {octet : UInt8} (h : readOctet? s = some octet) :
    ∀ c ∈ s, digitValue c ≠ none := by
  rw [readOctet?] at h
  split at h
  · cases h
  · split at h
    · next hnumber => exact digitValue_ne_none_of_readNat? hnumber
    · cases h

/-- A text that is read as an address holds digits and dots only. -/
theorem read?_eq_none_of_mem {s : List Char} {c : Char} (hmem : c ∈ s) (hdot : c ≠ '.')
    (hvalue : digitValue c = none) : read? s = none := by
  rw [← joinWith_splitAt '.' s] at hmem
  obtain ⟨piece, hpiece, hc⟩ := (mem_joinWith hmem).resolve_left hdot
  have hnone : readOctet? piece = none := by
    cases hread : readOctet? piece with
    | none => rfl
    | some octet => exact absurd hvalue (digitValue_ne_none_of_readOctet? hread c hc)
  rw [read?]
  split
  · next hsplit =>
      rw [hsplit] at hpiece
      simp only [List.mem_cons, List.not_mem_nil, or_false] at hpiece
      rcases hpiece with rfl | rfl | rfl | rfl <;> simp [hnone]
  · rfl

/-! ### The grammar -/

theorem readOctet?_eq_some_iff {s : List Char} {octet : UInt8} : readOctet? s = some octet ↔ s = showOctet octet := by
  constructor
  · intro h
    rw [readOctet?] at h
    split at h
    · cases h
    · next hzero =>
        split at h
        · next n hnumber =>
            split at h
            · next hlt =>
                obtain rfl := Option.some.inj h
                have hhead : s.head? = some '0' → s = ['0'] := fun hhead =>
                  Decidable.by_contra fun hne => hzero (.inr ⟨hhead, hne⟩)
                have hnumeral := ((readNat?_eq_some_iff (by decide)).1 hnumber).isNumeral (by decide)
                have hshown := eq_showNat_of_readNat? (by decide) (by decide) hnumeral hhead hnumber
                rw [showOctet, UInt8.toNat_ofNat_of_lt' hlt]
                exact hshown
            · cases h
        · cases h
  · rintro rfl
    exact readOctet?_showOctet octet

/-- Four decimal numbers with dots between them. -/
def dottedText (ip : IPv4) : String := ".".intercalate [toString ip.a, toString ip.b, toString ip.c, toString ip.d]

theorem ofList_render (ip : IPv4) : String.ofList ip.render = ip.dottedText := by
  have hoctet (octet : UInt8) : showOctet octet = (toString octet).toList := by
    have hdigits : toString octet = String.ofList (Nat.toDigits 10 octet.toNat) := rfl
    rw [showOctet, showNat_eq_toDigits (by decide) (by decide), hdigits, String.toList_ofList]
  apply String.toList_inj.1
  rw [String.toList_ofList, render, joinWith_eq_intercalate, dottedText, String.toList_intercalate]
  simp only [hoctet, List.map_cons, List.map_nil]
  rfl

/-- An IPv4 literal is the dotted text of the address. -/
def IsLiteral (ip : IPv4) (s : List Char) : Prop := s = ip.dottedText.toList

theorem isLiteral_iff {ip : IPv4} {s : List Char} : ip.IsLiteral s ↔ s = ip.render := by
  rw [IsLiteral, ← ofList_render, String.toList_ofList]

theorem read?_eq_some_iff {s : List Char} {ip : IPv4} : read? s = some ip ↔ ip.IsLiteral s := by
  rw [isLiteral_iff]
  constructor
  · intro h
    rw [read?] at h
    split at h
    · next a b c d hsplit =>
        obtain ⟨a', ha, h⟩ := Option.bind_eq_some_iff.1 h
        obtain ⟨b', hb, h⟩ := Option.bind_eq_some_iff.1 h
        obtain ⟨c', hc, h⟩ := Option.bind_eq_some_iff.1 h
        obtain ⟨d', hd, h⟩ := Option.bind_eq_some_iff.1 h
        obtain rfl := Option.some.inj h
        rw [← joinWith_splitAt '.' s, hsplit, readOctet?_eq_some_iff.1 ha, readOctet?_eq_some_iff.1 hb,
          readOctet?_eq_some_iff.1 hc, readOctet?_eq_some_iff.1 hd, render]
    · cases h
  · rintro rfl
    exact read?_render ip

end Bailiwick.IPv4
