import Bailiwick.HostName.Basic
import Bailiwick.Proofs.Text

/-!
The checks of a host name one by one: what a text that fails one of them is refused for, given that it passed those
before it, and what each of them says of the labels of the text.
-/

namespace Bailiwick.HostName

open Text

/-- A text with permitted characters only and no hyphen at either end of a label. -/
structure WellFormed (raw : List Char) : Prop where
  nonempty : raw ≠ []
  permitted : ∀ c ∈ raw, isPermitted c = true
  edges : ∀ label ∈ splitAt '.' raw, label.head? ≠ some '-' ∧ label.getLast? ≠ some '-'

theorem isWellFormed_iff {raw : List Char} : isWellFormed raw = true ↔ WellFormed raw := by
  have hhyphens : ((splitAt '.' raw).any hasOuterHyphen) = false ↔
      ∀ label ∈ splitAt '.' raw, label.head? ≠ some '-' ∧ label.getLast? ≠ some '-' := by
    simp [List.any_eq_false, hasOuterHyphen]
  rw [isWellFormed, Bool.and_eq_true, Bool.and_eq_true, Bool.not_eq_true', Bool.not_eq_true', hhyphens,
    List.all_eq_true, List.isEmpty_eq_false_iff]
  exact ⟨fun ⟨⟨hne, hall⟩, hedges⟩ => ⟨hne, hall, hedges⟩, fun ⟨hne, hall, hedges⟩ => ⟨⟨hne, hall⟩, hedges⟩⟩

theorem isWellFormed_eq_false_iff {raw : List Char} : isWellFormed raw = false ↔ ¬ WellFormed raw := by
  rw [← isWellFormed_iff, Bool.not_eq_true]

section Labels

variable {raw : List Char}

/-- The labels that are not empty. -/
def properLabels (raw : List Char) : List (List Char) := (splitAt '.' raw).filter fun label => !label.isEmpty

theorem mem_properLabels {label : List Char} : label ∈ properLabels raw ↔ label ∈ splitAt '.' raw ∧ label ≠ [] := by
  simp [properLabels]

/-- A text has no label but empty ones exactly if it has no character but dots. -/
theorem properLabels_eq_nil_iff : properLabels raw = [] ↔ ∀ c ∈ raw, c = '.' := by
  constructor
  · intro hnone c hc
    rw [← joinWith_splitAt '.' raw] at hc
    rcases mem_joinWith hc with hdot | ⟨label, hlabel, hc⟩
    · exact hdot
    · have hproper : label ∈ properLabels raw := mem_properLabels.2 ⟨hlabel, List.ne_nil_of_mem hc⟩
      rw [hnone] at hproper
      cases hproper
  · intro hdots
    refine List.eq_nil_iff_forall_not_mem.2 fun label hlabel => ?_
    obtain ⟨hmem, hne⟩ := mem_properLabels.1 hlabel
    obtain ⟨c, hc⟩ := List.exists_mem_of_ne_nil label hne
    have hdot := hdots c (mem_of_mem_splitAt hmem hc)
    subst hdot
    exact not_mem_of_mem_splitAt hmem hc

theorem dropEmptyLabels_eq_nil_iff : dropEmptyLabels raw = [] ↔ properLabels raw = [] := by
  constructor
  · intro hnil
    refine List.eq_nil_iff_forall_not_mem.2 fun label hlabel => ?_
    obtain ⟨c, hc⟩ := List.exists_mem_of_ne_nil label (mem_properLabels.1 hlabel).2
    have hjoin : c ∈ dropEmptyLabels raw := mem_joinWith_of_mem hlabel hc
    rw [hnil] at hjoin
    cases hjoin
  · intro hnone
    rw [dropEmptyLabels, ← properLabels, hnone]
    rfl

theorem splitAt_dropEmptyLabels (h : dropEmptyLabels raw ≠ []) :
    splitAt '.' (dropEmptyLabels raw) = properLabels raw :=
  splitAt_joinWith (fun hnone => h (dropEmptyLabels_eq_nil_iff.2 hnone)) fun _ hlabel =>
    not_mem_of_mem_splitAt (mem_properLabels.1 hlabel).1

theorem properLabels_eq_self_iff : properLabels raw = splitAt '.' raw ↔ [] ∉ splitAt '.' raw := by
  rw [properLabels, List.filter_eq_self]
  constructor
  · exact fun hall hmem => absurd (hall [] hmem) (by decide)
  · rintro hnone label hlabel
    cases label with
    | nil => exact absurd hlabel hnone
    | cons c rest => rfl

/-- Dropping empty labels changes a text that has some. -/
theorem dropEmptyLabels_eq_self_iff (h : dropEmptyLabels raw ≠ []) :
    dropEmptyLabels raw = raw ↔ [] ∉ splitAt '.' raw := by
  rw [← properLabels_eq_self_iff]
  constructor
  · intro hself
    rw [← splitAt_dropEmptyLabels h, hself]
  · intro hlabels
    rw [dropEmptyLabels, ← properLabels, hlabels, joinWith_splitAt]

theorem dropEmptyLabels_dropEmptyLabels (h : dropEmptyLabels raw ≠ []) :
    dropEmptyLabels (dropEmptyLabels raw) = dropEmptyLabels raw := by
  have hlabels := splitAt_dropEmptyLabels h
  rw [dropEmptyLabels, hlabels, properLabels, List.filter_filter]
  simp only [Bool.and_self]
  rfl

theorem mem_of_mem_dropEmptyLabels {c : Char} (h : c ∈ dropEmptyLabels raw) : c = '.' ∨ c ∈ raw := by
  rcases mem_joinWith h with hdot | ⟨label, hlabel, hc⟩
  · exact .inl hdot
  · exact .inr (mem_of_mem_splitAt (mem_properLabels.1 hlabel).1 hc)

/-- A name takes two octets more on the wire than it has characters. -/
theorem encodedLength_eq (raw : List Char) : encodedLength raw = raw.length + 2 := by
  rw [encodedLength]
  induction raw with
  | nil => rfl
  | cons c rest ih =>
      by_cases hc : c = '.'
      · subst hc
        rw [splitAt_cons_sep, List.foldr_cons, ih, List.length_cons, List.length_nil]
        omega
      · obtain ⟨first, labels, hsplit, hcons⟩ := splitAt_cons_of_ne hc rest
        rw [hsplit, List.foldr_cons] at ih
        rw [hcons, List.foldr_cons, List.length_cons, List.length_cons]
        omega

end Labels

section Order

variable {conversions : Conversions} {raw ascii : List Char}

/-- A well-formed text in lower case. -/
structure Lowered (conversions : Conversions) (raw : List Char) : Prop extends WellFormed raw where
  lower_eq : conversions.lower raw = raw

/-- A well-formed text in lower case that is its own ASCII form. -/
structure Converted (conversions : Conversions) (raw : List Char) : Prop extends Lowered conversions raw where
  ascii_eq : conversions.ascii? raw = some raw

/-- A text that passes every check but perhaps those of its length. -/
structure Normal (conversions : Conversions) (raw : List Char) : Prop extends Converted conversions raw where
  proper : dropEmptyLabels raw = raw

theorem toAscii?_eq_some_iff : conversions.toAscii? raw = some ascii ↔
    conversions.ascii? raw = some ascii ∧ WellFormed ascii := by
  rw [Conversions.toAscii?, Option.filter_eq_some_iff, isWellFormed_iff]

theorem Converted.toAscii?_eq (h : Converted conversions raw) : conversions.toAscii? raw = some raw :=
  toAscii?_eq_some_iff.2 ⟨h.ascii_eq, h.toWellFormed⟩

theorem checkBy_of_not_wellFormed (h : ¬ WellFormed raw) : checkBy conversions raw = .error .invalidHostName := by
  rw [checkBy, isWellFormed_eq_false_iff.2 h]
  rfl

theorem checkBy_of_lower_ne (h : WellFormed raw) (hlower : conversions.lower raw ≠ raw) :
    checkBy conversions raw = .error (.hostNameNotLowerCase (String.ofList (conversions.lower raw))) := by
  simp only [checkBy, isWellFormed_iff.2 h, if_pos hlower]
  rfl

theorem checkBy_of_toAscii?_eq_none (h : Lowered conversions raw) (hnone : conversions.toAscii? raw = none) :
    checkBy conversions raw = .error .invalidHostName := by
  simp only [checkBy, isWellFormed_iff.2 h.toWellFormed, h.lower_eq, hnone, ne_eq, not_true_eq_false, if_false]
  rfl

theorem checkBy_of_ascii_ne (h : Lowered conversions raw) (hascii : conversions.toAscii? raw = some ascii)
    (hne : ascii ≠ raw) : checkBy conversions raw = .error (.hostNameNotPunyCoded (String.ofList ascii)) := by
  simp only [checkBy, isWellFormed_iff.2 h.toWellFormed, h.lower_eq, hascii, if_pos hne, ne_eq,
    not_true_eq_false, if_false]
  rfl

theorem checkBy_of_dropEmptyLabels_eq_nil (h : Converted conversions raw) (hnil : dropEmptyLabels raw = []) :
    checkBy conversions raw = .error .invalidHostName := by
  simp only [checkBy, isWellFormed_iff.2 h.toWellFormed, h.lower_eq, h.toAscii?_eq, hnil, ne_eq,
    not_true_eq_false, if_false]
  rfl

theorem checkBy_of_dropEmptyLabels_ne (h : Converted conversions raw) (hnil : dropEmptyLabels raw ≠ [])
    (hne : dropEmptyLabels raw ≠ raw) :
    checkBy conversions raw = .error (.hostNameNotNormalized (String.ofList (dropEmptyLabels raw))) := by
  simp only [checkBy, isWellFormed_iff.2 h.toWellFormed, h.lower_eq, h.toAscii?_eq,
    List.isEmpty_eq_false_iff.2 hnil, if_pos hne, ne_eq, not_true_eq_false, if_false]
  rfl

/-- The checks of the length, which come last. -/
theorem checkBy_of_normal (h : Normal conversions raw) : checkBy conversions raw =
    if 253 < raw.length then .error .hostNameTooLong
    else if ∃ label ∈ splitAt '.' raw, 63 < label.length then .error .invalidHostName
    else .ok () := by
  have hnonempty : raw.isEmpty = false := List.isEmpty_eq_false_iff.2 h.nonempty
  have hlong : maxEncodedLength < encodedLength raw ↔ 253 < raw.length := by
    rw [encodedLength_eq, maxEncodedLength]
    omega
  have hlabel : ((splitAt '.' raw).any fun label => maxLabelLength < label.length) = true ↔
      ∃ label ∈ splitAt '.' raw, 63 < label.length := by
    rw [List.any_eq_true]
    exact exists_congr fun label => and_congr_right fun _ => decide_eq_true_iff
  simp only [checkBy, isWellFormed_iff.2 h.toWellFormed, h.lower_eq, h.toAscii?_eq, hnonempty, h.proper, hlong,
    hlabel, ne_eq, not_true_eq_false, if_false, Bool.not_true, Bool.false_eq_true]
  rfl

/-- What is accepted passes every check. -/
theorem normal_of_checkBy_eq_ok (h : checkBy conversions raw = .ok ()) : Normal conversions raw := by
  by_cases hwell : WellFormed raw
  · by_cases hlower : conversions.lower raw = raw
    · have hlowered : Lowered conversions raw := ⟨hwell, hlower⟩
      cases hascii : conversions.toAscii? raw with
      | none =>
          rw [checkBy_of_toAscii?_eq_none hlowered hascii] at h
          cases h
      | some ascii =>
          by_cases hsame : ascii = raw
          · subst hsame
            have hconverted : Converted conversions ascii := ⟨hlowered, (toAscii?_eq_some_iff.1 hascii).1⟩
            by_cases hnil : dropEmptyLabels ascii = []
            · rw [checkBy_of_dropEmptyLabels_eq_nil hconverted hnil] at h
              cases h
            · by_cases hproper : dropEmptyLabels ascii = ascii
              · exact ⟨hconverted, hproper⟩
              · rw [checkBy_of_dropEmptyLabels_ne hconverted hnil hproper] at h
                cases h
          · rw [checkBy_of_ascii_ne hlowered hascii hsame] at h
            cases h
    · rw [checkBy_of_lower_ne hwell hlower] at h
      cases h
  · rw [checkBy_of_not_wellFormed hwell] at h
    cases h

end Order

theorem text_of_parse {raw : String} {name : HostName} (h : parse raw = .ok name) : name.text = raw := by
  rw [parse] at h
  split at h
  · cases h
    rfl
  · cases h

/-- A name is read back from its text. -/
theorem parse_text (name : HostName) : parse name.text = .ok name := by
  rw [parse]
  split
  · rfl
  · next h => exact absurd (name.accepted.symm.trans h) nofun

end Bailiwick.HostName
