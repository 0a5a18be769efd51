import Bailiwick.Idna.Ascii
import Bailiwick.Proofs.Text
import Bailiwick.Proofs.Unicode.Lower

/-!
The ASCII form of a name is ASCII, and a name that is ASCII without capitals and announces no encoded label is its own
ASCII form.
-/

namespace Bailiwick

open Unicode

namespace Idna.Punycode

theorem digitChar_ascii {d : Nat} (h : d < 36) : (digitChar d).toNat < 0x80 := by
  have hall : ∀ d < 36, (digitChar d).toNat < 0x80 := by decide
  exact hall d h

theorem encodeNumber_ascii (bias k q : Nat) : AsciiText (encodeNumber bias k q) := by
  induction k, q using encodeNumber.induct bias with
  | case1 k q t hlt =>
      rw [encodeNumber, if_pos hlt]
      have hle := threshold_le bias k
      exact List.forall_mem_singleton.2 (digitChar_ascii (Nat.lt_of_lt_of_le hlt (by omega)))
  | case2 k q t hge ih =>
      rw [encodeNumber, if_neg hge]
      have hle := threshold_le bias k
      have hmod : (q - threshold bias k) % (36 - threshold bias k) < 36 - threshold bias k := Nat.mod_lt _ (by omega)
      exact List.forall_mem_cons.2 ⟨digitChar_ascii (by omega), ih⟩

theorem pass_ascii {code count : Nat} {e : Encoder} (h : AsciiText e.digits) (c : Char) :
    AsciiText (e.pass code count c).digits := by
  rw [Encoder.pass]
  split
  · exact h
  · split
    · exact List.forall_mem_append.2 ⟨h, encodeNumber_ascii _ _ _⟩
    · exact h

theorem foldl_pass_ascii {code count : Nat} (text : List Char) {e : Encoder} (h : AsciiText e.digits) :
    AsciiText (text.foldl (Encoder.pass code count) e).digits := by
  induction text generalizing e with
  | nil => exact h
  | cons c rest ih => exact ih (pass_ascii h c)

theorem insertAll_ascii (text : List Char) (count : Nat) {e : Encoder} (next : Nat) (codes : List Nat)
    (h : AsciiText e.digits) : AsciiText (e.insertAll text count next codes).digits := by
  induction codes generalizing e next with
  | nil => exact h
  | cons code codes ih => exact ih (code + 1) (foldl_pass_ascii text h)

/-- Encoded texts are ASCII. -/
theorem encode_ascii (s : List Char) : AsciiText (encode s) := by
  have hdigits (count : Nat) (codes : List Nat) :
      AsciiText (Encoder.insertAll s count ⟨[], 0, 72, count⟩ 0x80 codes).digits :=
    insertAll_ascii s count 0x80 codes nofun
  rw [encode]
  split
  · exact hdigits _ _
  · refine List.forall_mem_append.2 ⟨fun c hc => ?_, List.forall_mem_cons.2 ⟨by decide, hdigits _ _⟩⟩
    exact of_decide_eq_true (List.mem_filter.1 hc).2

end Idna.Punycode

namespace Unicode

theorem expandChar_of_ascii {s : List Char} (hs : AsciiText s) : s.flatMap expandChar = s := by
  induction s with
  | nil => rfl
  | cons c rest ih =>
      rw [List.flatMap_cons, ih fun d hd => hs d (List.mem_cons_of_mem c hd), expandChar,
        if_pos (hs c List.mem_cons_self)]
      rfl

theorem combiningClass_of_ascii {c : Char} (hc : c.toNat < 0x80) : combiningClass c = 0 := by
  rw [combiningClass, if_pos (by omega)]

theorem orderMarks_of_ascii {s : List Char} (hs : AsciiText s) : orderMarks s = s := by
  induction s with
  | nil => rfl
  | cons c rest ih =>
      rw [orderMarks, ih fun d hd => hs d (List.mem_cons_of_mem c hd)]
      cases rest with
      | nil => rfl
      | cons d rest =>
          have hd := combiningClass_of_ascii (hs d (List.mem_cons_of_mem c List.mem_cons_self))
          simp [insertMark, hd]

/-- Nothing composes with an ASCII character behind it. -/
theorem composePair_of_ascii (base : Char) {c : Char} (hc : c.toNat < 0x80) : composePair base c = none := by
  have hvowel : decide (0x1161 ≤ c.toNat) = false := decide_eq_false (by omega)
  have htrailing : decide (0x11A7 < c.toNat) = false := decide_eq_false (by omega)
  simp [composePair, hvowel, htrailing, hc]

theorem composeAfter_of_ascii (base : Char) {s : List Char} (hs : AsciiText s) : composeAfter base [] s = base :: s := by
  induction s generalizing base with
  | nil => rfl
  | cons c rest ih =>
      have hc := hs c List.mem_cons_self
      simp [composeAfter, composePair_of_ascii base hc, combiningClass_of_ascii hc,
        ih c fun d hd => hs d (List.mem_cons_of_mem c hd)]

/-- ASCII texts are normalized. -/
theorem normalize_of_ascii {s : List Char} (hs : AsciiText s) : normalize s = s := by
  have hdecompose : decompose s = s := by
    rw [decompose, expandChar_of_ascii hs, expandChar_of_ascii hs, expandChar_of_ascii hs, expandChar_of_ascii hs]
  rw [normalize, hdecompose, orderMarks_of_ascii hs]
  cases s with
  | nil => rfl
  | cons c rest =>
      rw [compose, if_pos (combiningClass_of_ascii (hs c List.mem_cons_self)),
        composeAfter_of_ascii c fun d hd => hs d (List.mem_cons_of_mem c hd)]

end Unicode

namespace Idna

theorem mapText_of_ascii {s : List Char} (hs : AsciiText s) (hupper : Uncapped s) : mapText s = some s := by
  induction s with
  | nil => rfl
  | cons c rest ih =>
      rw [mapText, ih (fun d hd => hs d (List.mem_cons_of_mem c hd)) fun d hd => hupper d (List.mem_cons_of_mem c hd),
        mapChar, if_pos (hs c List.mem_cons_self), toLower_of_not_isUpper (hupper c List.mem_cons_self)]
      rfl

theorem isAsciiText_iff {s : List Char} : isAsciiText s = true ↔ AsciiText s := by
  simp [isAsciiText]

/-- An ASCII label that announces no encoding stands for itself. -/
theorem ofMapped_of_ascii {s : List Char} (hs : AsciiText s) (hplain : acePrefix.isPrefixOf s = false) :
    Label.ofMapped s = some ⟨s, s⟩ := by
  rw [Label.ofMapped, hplain, if_neg Bool.false_ne_true, if_pos (isAsciiText_iff.2 hs)]

theorem joinersInContext_of_ascii (before : List Char) {s : List Char} (hs : AsciiText s) :
    joinersInContext before s = true := by
  induction s generalizing before with
  | nil => rfl
  | cons c rest ih =>
      have hascii := hs c List.mem_cons_self
      have hnon : c ≠ '\u200C' := by
        rintro rfl
        exact absurd hascii (by decide)
      have hjoiner : c ≠ '\u200D' := by
        rintro rfl
        exact absurd hascii (by decide)
      simp [joinersInContext, hnon, hjoiner, ih _ fun d hd => hs d (List.mem_cons_of_mem c hd)]

theorem isMark_of_ascii {c : Char} (hc : c.toNat < 0x80) : isMark c = false :=
  ascii_cases (P := fun c => isMark c = false) (by decide +kernel) hc

theorem bidiClass_of_ascii {c : Char} (hc : c.toNat < 0x80) :
    [BidiClass.r, .al, .an].contains (bidiClass c) = false :=
  ascii_cases (P := fun c => [BidiClass.r, .al, .an].contains (bidiClass c) = false) (by decide +kernel) hc

theorem isValid_of_ascii {s : List Char} (hs : AsciiText s) : (Label.mk s s).isValid = true := by
  rw [Label.isValid, joinersInContext_of_ascii [] hs, Bool.and_true]
  cases s with
  | nil => rfl
  | cons c rest =>
      change (!isMark c) = true
      rw [isMark_of_ascii (hs c List.mem_cons_self)]
      rfl

theorem isRightToLeft_of_ascii {s : List Char} (hs : AsciiText s) : (Label.mk s s).isRightToLeft = false :=
  List.any_eq_false.2 fun c hc => by
    rw [bidiClass_of_ascii (hs c hc)]
    exact Bool.false_ne_true

theorem mapM_ofMapped_of_ascii {pieces : List (List Char)}
    (h : ∀ piece ∈ pieces, AsciiText piece ∧ acePrefix.isPrefixOf piece = false) :
    pieces.mapM Label.ofMapped = some (pieces.map fun piece => ⟨piece, piece⟩) := by
  induction pieces with
  | nil => rfl
  | cons piece pieces ih =>
      obtain ⟨hascii, hplain⟩ := h piece List.mem_cons_self
      rw [List.mapM_cons, ofMapped_of_ascii hascii hplain, ih fun p hp => h p (List.mem_cons_of_mem _ hp)]
      rfl

/-- A name in ASCII without capitals, none of whose labels announces an encoding, is its own ASCII form. -/
theorem toAscii_of_ascii {s : List Char} (hs : AsciiText s) (hupper : Uncapped s)
    (hplain : ∀ label ∈ Text.splitAt '.' s, acePrefix.isPrefixOf label = false) : toAscii s = some s := by
  have hpieces (piece : List Char) (hpiece : piece ∈ Text.splitAt '.' s) : AsciiText piece :=
    fun c hc => hs c (Text.mem_of_mem_splitAt hpiece hc)
  have hvalid : ((Text.splitAt '.' s).map fun piece => Label.mk piece piece).all Label.isValid = true := by
    refine List.all_eq_true.2 (List.forall_mem_map.2 fun piece hpiece => ?_)
    exact isValid_of_ascii (hpieces piece hpiece)
  have hleft : ((Text.splitAt '.' s).map fun piece => Label.mk piece piece).any Label.isRightToLeft = false := by
    refine List.any_eq_false.2 (List.forall_mem_map.2 fun piece hpiece => ?_)
    rw [isRightToLeft_of_ascii (hpieces piece hpiece)]
    exact Bool.false_ne_true
  have hlabels : labels? s = some ((Text.splitAt '.' s).map fun piece => ⟨piece, piece⟩) := by
    rw [labels?, mapText_of_ascii hs hupper]
    change (do
      let labels ← (Text.splitAt '.' (normalize s)).mapM Label.ofMapped
      if labels.all Label.isValid && (!labels.any Label.isRightToLeft || labels.all Label.keepsDirection) then
        some labels
      else none) = _
    rw [normalize_of_ascii hs, mapM_ofMapped_of_ascii fun piece hpiece => ⟨hpieces piece hpiece, hplain piece hpiece⟩]
    change (if _ then _ else _) = _
    rw [hvalid, hleft]
    rfl
  rw [toAscii, hlabels, Option.map_some, List.map_map]
  change some (Text.joinWith '.' ((Text.splitAt '.' s).map id)) = some s
  rw [List.map_id, Text.joinWith_splitAt]

theorem ascii_of_ofMapped {s : List Char} {label : Label} (h : Label.ofMapped s = some label) :
    AsciiText label.ascii := by
  rw [Label.ofMapped] at h
  split at h
  · simp only at h
    split at h
    · cases h
    · next hbad =>
        have hs : AsciiText s := by
          simp only [Bool.or_eq_true, Bool.not_eq_true', not_or, Bool.not_eq_false] at hbad
          exact isAsciiText_iff.1 hbad.1.1
        split at h
        · split at h
          · obtain rfl := Option.some.inj h
            exact hs
          · cases h
        · cases h
  · split at h
    · next hs =>
        obtain rfl := Option.some.inj h
        exact isAsciiText_iff.1 hs
    · split at h
      · obtain rfl := Option.some.inj h
        exact List.forall_mem_append.2 ⟨by decide, Punycode.encode_ascii s⟩
      · cases h

theorem ascii_of_mapM {pieces : List (List Char)} {labels : List Label}
    (h : pieces.mapM Label.ofMapped = some labels) : ∀ label ∈ labels, AsciiText label.ascii := by
  induction pieces generalizing labels with
  | nil =>
      obtain rfl := Option.some.inj h
      exact nofun
  | cons piece pieces ih =>
      rw [List.mapM_cons] at h
      obtain ⟨first, hfirst, h⟩ := Option.bind_eq_some_iff.1 h
      obtain ⟨rest, hrest, h⟩ := Option.bind_eq_some_iff.1 h
      obtain rfl := Option.some.inj h
      exact List.forall_mem_cons.2 ⟨ascii_of_ofMapped hfirst, ih hrest⟩

/-- The ASCII form of a name is ASCII. -/
theorem ascii_of_toAscii {s ascii : List Char} (h : toAscii s = some ascii) : AsciiText ascii := by
  rw [toAscii] at h
  obtain ⟨labels, hlabels, rfl⟩ := Option.map_eq_some_iff.1 h
  rw [labels?] at hlabels
  obtain ⟨mapped, -, hlabels⟩ := Option.bind_eq_some_iff.1 hlabels
  obtain ⟨read, hread, hlabels⟩ := Option.bind_eq_some_iff.1 hlabels
  have hsame : read = labels := by
    split at hlabels
    · exact Option.some.inj hlabels
    · cases hlabels
  subst hsame
  intro c hc
  rcases Text.mem_joinWith hc with rfl | ⟨piece, hpiece, hc⟩
  · decide
  · obtain ⟨label, hlabel, rfl⟩ := List.mem_map.1 hpiece
    exact ascii_of_mapM hread label hlabel c hc

end Idna

end Bailiwick
