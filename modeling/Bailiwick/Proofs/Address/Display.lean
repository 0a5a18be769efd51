import Bailiwick.Proofs.Address.Declared

/-!
The standard texts of addresses. An IPv6 address that stands for an IPv4 address shows it; any other one leaves out the
first of its longest runs of zero groups, if that has two groups at least. A text belongs to at most one of the two
versions, so an address is read back from its text under its own version and is a mismatch under the other.
-/

namespace Bailiwick

open Text

/-! ### IPv4 -/

namespace IPv4

theorem not_blank_of_mem_render {ip : IPv4} : ∀ c ∈ ip.render, isBlank c = false := by
  apply not_blank_of_mem_joinWith (by decide)
  simp only [List.mem_cons, List.not_mem_nil, or_false]
  rintro _ (rfl | rfl | rfl | rfl) <;> exact not_blank_of_mem_showNat (by decide) (by decide)

end IPv4

/-! ### IPv6 -/

namespace IPv6

theorem not_blank_of_mem_showGroups {groups : List UInt16} : ∀ c ∈ showGroups groups, isBlank c = false := by
  apply not_blank_of_mem_joinWith (by decide)
  intro piece hpiece
  obtain ⟨group, -, rfl⟩ := List.mem_map.1 hpiece
  exact not_blank_of_mem_showNat (by decide) (by decide)

theorem not_blank_of_mem_render {ip : IPv6} : ∀ c ∈ ip.render, isBlank c = false := by
  have hcolon : isBlank ':' = false := by decide
  rw [render]
  split
  · have hstart : ∀ c ∈ "::ffff:".toList, isBlank c = false := by simp [isBlank]
    exact List.forall_mem_append.2 ⟨hstart, IPv4.not_blank_of_mem_render⟩
  · split
    split
    · exact not_blank_of_mem_showGroups
    · refine List.forall_mem_append.2 ⟨not_blank_of_mem_showGroups, ?_⟩
      exact List.forall_mem_cons.2 ⟨hcolon, List.forall_mem_cons.2 ⟨hcolon, not_blank_of_mem_showGroups⟩⟩

/-- Hexadecimal numbers in lower case, with colons between them. -/
def groupText (groups : List UInt16) : String :=
  ":".intercalate (groups.map fun group => String.ofList (Nat.toDigits 16 group.toNat))

theorem ofList_showGroups (groups : List UInt16) : String.ofList (showGroups groups) = groupText groups := by
  have hgroup : showGroup = String.toList ∘ fun group => String.ofList (Nat.toDigits 16 group.toNat) := by
    funext group
    rw [Function.comp_apply, String.toList_ofList, showGroup, showNat_eq_toDigits (by decide) (by decide)]
  apply String.toList_inj.1
  rw [String.toList_ofList, showGroups, joinWith_eq_intercalate, groupText, String.toList_intercalate, List.map_map,
    hgroup]
  rfl

/-- These are the groups of the address that stands for an IPv4 address. -/
def StandsFor (groups : List UInt16) (v4 : IPv4) : Prop := groups = List.replicate 5 0 ++ 0xFFFF :: groupsOfV4 v4

/-- The standard text of an IPv6 address. -/
inductive Displays (ip : IPv6) : String → Prop
  | mapped {v4 : IPv4} (hfor : StandsFor ip.groups v4) : Displays ip ("::ffff:" ++ v4.dottedText)
  | plain (hfor : ∀ v4, ¬ StandsFor ip.groups v4) (hzeros : ∀ start, ¬ ZerosAt ip.groups start 2) :
      Displays ip (groupText ip.groups)
  | shortened {start count : Nat} (hfor : ∀ v4, ¬ StandsFor ip.groups v4) (hcount : 2 ≤ count)
      (hrun : IsFirstLongest ip.groups start count) :
      Displays ip (groupText (ip.groups.take start) ++ "::" ++ groupText (ip.groups.drop (start + count)))

theorem standsFor_iff {groups : List UInt16} {v4 : IPv4} : StandsFor groups v4 ↔ mapped? groups = some v4 :=
  ⟨fun h => h ▸ mapped?_groupsOfV4 v4, mapped?_eq_some⟩

theorem mapped?_eq_none_iff {groups : List UInt16} : mapped? groups = none ↔ ∀ v4, ¬ StandsFor groups v4 := by
  simp only [standsFor_iff, ← Option.eq_none_iff_forall_ne_some]

variable {ip : IPv6} {s t : String}

theorem displays_render (ip : IPv6) : ip.Displays (String.ofList ip.render) := by
  rw [render]
  split
  · next v4 hmapped =>
      rw [String.ofList_append, IPv4.ofList_render]
      exact .mapped (mapped?_eq_some hmapped)
  · next hmapped =>
      have hfor := mapped?_eq_none_iff.1 hmapped
      split
      next start count hlongest =>
        split
        · next hcount =>
            rw [ofList_showGroups]
            refine .plain hfor fun other hzeros => ?_
            exact absurd (le_of_longestZeroRun hlongest hzeros) (Nat.not_le.2 hcount)
        · next hcount =>
            have hpos : 2 ≤ count := Nat.not_lt.1 hcount
            have hrun := isFirstLongest_longestZeroRun hlongest (Nat.lt_of_lt_of_le (by decide) hpos)
            change ip.Displays (String.ofList (_ ++ ([':', ':'] ++ showGroups _)))
            rw [String.ofList_append, String.ofList_append, ofList_showGroups, ofList_showGroups, ← String.append_assoc]
            exact .shortened hfor hpos hrun

/-- An address has one standard text. -/
theorem Displays.unique (h : ip.Displays s) (hother : ip.Displays t) : s = t := by
  cases h with
  | mapped hfor =>
      cases hother with
      | mapped hother =>
          have hsame := (standsFor_iff.1 hfor).symm.trans (standsFor_iff.1 hother)
          rw [Option.some.inj hsame]
      | plain hnone => exact absurd hfor (hnone _)
      | shortened hnone => exact absurd hfor (hnone _)
  | plain hnone hzeros =>
      cases hother with
      | mapped hfor => exact absurd hfor (hnone _)
      | plain => rfl
      | shortened _ hcount hrun => exact absurd (hrun.zeros.mono hcount) (hzeros _)
  | shortened hnone hcount hrun =>
      cases hother with
      | mapped hfor => exact absurd hfor (hnone _)
      | plain _ hzeros => exact absurd (hrun.zeros.mono hcount) (hzeros _)
      | shortened _ _ hother =>
          obtain ⟨rfl, rfl⟩ := hrun.unique hother
          rfl

/-! ### One version to a text -/

/-- A text that is read as an address holds a colon. -/
theorem read?_eq_none_of_colon_notMem {literal : List Char} (h : ':' ∉ literal) : read? literal = none := by
  have hrun : splitRun? literal = none := by
    have hnone : splitRun? (literal ++ []) = none := splitRun?_append_eq_none h rfl
    rwa [List.append_nil] at hnone
  rw [read?, hrun]
  change (readPieces? true (splitAt ':' literal)).bind ofGroups? = none
  rw [splitAt_of_not_mem h, readPieces?]
  -- Without a colon there are one or two groups, and an address has eight.
  cases readGroup? literal with
  | some group => rfl
  | none => cases IPv4.read? literal <;> rfl

/-- No text is in the grammars of both versions. -/
theorem read?_eq_none_of_v4 {literal : List Char} {v4 : IPv4} (h : IPv4.read? literal = some v4) :
    read? literal = none := by
  apply read?_eq_none_of_colon_notMem
  intro hcolon
  rw [IPv4.read?_eq_none_of_mem hcolon (by decide) (by decide)] at h
  cases h

end IPv6

/-! ### Either version -/

namespace IpAddress

/-- The standard text of an address. -/
def Displays : IpAddress → String → Prop
  | .v4 ip, s => s = ip.dottedText
  | .v6 ip, s => ip.Displays s

theorem displays_iff {ip : IpAddress} {s : String} : ip.Displays s ↔ s = ip.text := by
  cases ip with
  | v4 ip =>
      change s = ip.dottedText ↔ s = String.ofList ip.render
      rw [IPv4.ofList_render]
  | v6 ip =>
      constructor
      · exact fun h => h.unique ip.displays_render
      · rintro rfl
        exact ip.displays_render

/-- There are no blanks in the text of an address. -/
theorem not_blank_of_mem_text {ip : IpAddress} : ∀ c ∈ ip.text.toList, isBlank c = false := by
  cases ip with
  | v4 ip =>
      rw [text, String.toList_ofList]
      exact IPv4.not_blank_of_mem_render
  | v6 ip =>
      rw [text, String.toList_ofList]
      exact IPv6.not_blank_of_mem_render

end IpAddress

namespace DeclaredAddress

/-- A literal in the grammar of a version is an address of that version and a mismatch under the other. -/
theorem parse_eq (version : IpVersion) (literal : String) :
    parse ⟨version, literal⟩ = match IpAddress.read? (String.ofList (trim literal.toList)) with
      | some ip => if version = ip.version then .ok ip else .error (.ipAddressVersionMismatch literal)
      | none => .error (.invalidIpAddress literal) := by
  rw [parse, IpAddress.read?, String.toList_ofList]
  cases hv4 : IPv4.read? (trim literal.toList) with
  | some v4 =>
      rw [IPv6.read?_eq_none_of_v4 hv4]
      cases version <;> rfl
  | none =>
      cases IPv6.read? (trim literal.toList) with
      | some v6 => cases version <;> rfl
      | none => cases version <;> rfl

/-- An address is read back from its standard text, with blanks around it, under its own version; under the other
version the literal is a mismatch. -/
theorem parse_displayed (ip : IpAddress) {front back : String} (hfront : ∀ c ∈ front.toList, isBlank c = true)
    (hback : ∀ c ∈ back.toList, isBlank c = true) :
    (∀ shown, ip.Displays shown ↔ shown = ip.text) ∧
    ∀ version, parse ⟨version, front ++ ip.text ++ back⟩ =
      if version = ip.version then .ok ip else .error (.ipAddressVersionMismatch (front ++ ip.text ++ back)) := by
  refine ⟨fun _ => IpAddress.displays_iff, fun version => ?_⟩
  have htrim : trim (front ++ ip.text ++ back).toList = ip.text.toList := by
    rw [String.toList_append, String.toList_append]
    exact trim_append_append hfront IpAddress.not_blank_of_mem_text hback
  rw [parse_eq, htrim, String.ofList_toList, IpAddress.read?_text]

/-- Of two runs of one length the first is left out, and the blanks on the two sides are of several kinds. -/
theorem parse_displayed_tied :
    parse ⟨.v6, "\u00a0\t2001:db8::1:0:0:1\u3000"⟩ = .ok (.v6 ⟨[0x2001, 0xDB8, 0, 0, 1, 0, 0, 1], rfl⟩) ∧
    parse ⟨.v4, "\u00a0\t2001:db8::1:0:0:1\u3000"⟩
      = .error (.ipAddressVersionMismatch "\u00a0\t2001:db8::1:0:0:1\u3000") := by
  have hfront : ∀ c ∈ "\u00a0\t".toList, isBlank c = true := List.all_eq_true.1 (by decide)
  have hback : ∀ c ∈ "\u3000".toList, isBlank c = true := List.all_eq_true.1 (by decide)
  have hparse := (parse_displayed (.v6 ⟨[0x2001, 0xDB8, 0, 0, 1, 0, 0, 1], rfl⟩) hfront hback).2
  have htext : IpAddress.text (.v6 ⟨[0x2001, 0xDB8, 0, 0, 1, 0, 0, 1], rfl⟩) = "2001:db8::1:0:0:1" := by
    decide +kernel
  rw [htext] at hparse
  exact ⟨hparse .v6, hparse .v4⟩

end DeclaredAddress

end Bailiwick
