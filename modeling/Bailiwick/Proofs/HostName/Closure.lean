import Bailiwick.Proofs.HostName.Correction

/-!
The canonical form as a closure of texts. What conversion, lower-casing and dropping make of a text passes every check
that does not count characters, and a text that passes them is made into itself. So the texts that are accepted are the
canonical forms that are short enough.
-/

namespace Bailiwick.HostName

open Text Unicode

/-- The canonical form of a text by some conversions. -/
def canonicalBy? (conversions : Conversions) (raw : String) : Option String :=
  (canonicalFormBy conversions raw.toList).map String.ofList

/-- A label of lower-case letters, digits and inner hyphens. -/
structure IsLabel (label : List Char) : Prop where
  nonempty : label ≠ []
  chars : ∀ c ∈ label, c.isLower = true ∨ c.isDigit = true ∨ c = '-'
  edges : label.head? ≠ some '-' ∧ label.getLast? ≠ some '-'

/-- Labels with dots between them, at least one of them. -/
def IsDotted (form : String) : Prop :=
  ∃ labels, labels ≠ [] ∧ (∀ label ∈ labels, IsLabel label) ∧ form.toList = joinWith '.' labels

section Closure

variable {conversions : Conversions} {raw form : List Char}

/-- A text that passes every check that does not count is its own canonical form. -/
theorem Normal.canonicalFormBy_eq (h : Normal conversions raw) : canonicalFormBy conversions raw = some raw := by
  have hascii : conversions.toAscii? (conversions.lower raw) = some raw := by
    rw [h.lower_eq, h.toAscii?_eq]
  rw [canonicalFormBy_of_toAscii?_eq_some h.toWellFormed hascii, h.proper, if_neg h.nonempty]

/-- A canonical form passes every check that does not count. -/
theorem Settles.normal_of_canonicalFormBy (hascii : Settles conversions.ascii?) (hlower : IsLowering conversions.lower)
    (h : canonicalFormBy conversions raw = some form) : Normal conversions form := by
  by_cases hwell : WellFormed raw
  · cases hsome : conversions.toAscii? (conversions.lower raw) with
    | none =>
        rw [canonicalFormBy_of_toAscii?_eq_none hwell hsome] at h
        cases h
    | some ascii =>
        rw [canonicalFormBy_of_toAscii?_eq_some hwell hsome] at h
        split at h
        · cases h
        · next hne =>
            obtain rfl := Option.some.inj h
            exact hascii.normal hlower (hascii.converted hlower hsome) hne
  · rw [canonicalFormBy_of_not_wellFormed hwell] at h
    cases h

/-- The fixed points of the canonical form are the texts that pass every check that does not count. -/
theorem Settles.canonicalFormBy_eq_self_iff (hascii : Settles conversions.ascii?)
    (hlower : IsLowering conversions.lower) : canonicalFormBy conversions raw = some raw ↔ Normal conversions raw :=
  ⟨hascii.normal_of_canonicalFormBy hlower, Normal.canonicalFormBy_eq⟩

theorem checkBy_eq_ok_iff : checkBy conversions raw = .ok () ↔ Normal conversions raw ∧ raw.length ≤ 253 ∧
    ∀ label ∈ splitAt '.' raw, label.length ≤ 63 := by
  have hcounts (h : Normal conversions raw) : checkBy conversions raw = .ok () ↔ raw.length ≤ 253 ∧
      ∀ label ∈ splitAt '.' raw, label.length ≤ 63 := by
    rw [checkBy_of_normal h, ite_error_eq_ok_iff, ite_error_eq_ok_iff]
    simp
  constructor
  · intro hok
    have hnormal := normal_of_checkBy_eq_ok hok
    exact ⟨hnormal, (hcounts hnormal).1 hok⟩
  · rintro ⟨hnormal, hshort⟩
    exact (hcounts hnormal).2 hshort

/-- A text that passes every check that does not count consists of labels, if its ASCII form is ASCII in lower case. -/
theorem Normal.isLabel (h : Normal conversions raw) (hascii : AsciiText raw) (hupper : Uncapped raw) :
    ∀ label ∈ splitAt '.' raw, IsLabel label := by
  have hproper : dropEmptyLabels raw ≠ [] := by
    rw [h.proper]
    exact h.nonempty
  have hempty : [] ∉ splitAt '.' raw := (dropEmptyLabels_eq_self_iff hproper).1 h.proper
  intro label hlabel
  refine ⟨fun hnil => hempty (hnil ▸ hlabel), fun c hc => ?_, h.edges label hlabel⟩
  rcases h.isPlain hascii hupper c (mem_of_mem_splitAt hlabel hc) with hletter | hdigit | hhyphen | rfl
  · exact .inl hletter
  · exact .inr (.inl hdigit)
  · exact .inr (.inr hhyphen)
  · exact absurd hc (not_mem_of_mem_splitAt hlabel)

end Closure

/-- An ASCII text has a byte for each character. -/
theorem utf8ByteSize_of_ascii {s : List Char} (h : AsciiText s) : (String.ofList s).utf8ByteSize = s.length := by
  induction s with
  | nil => rfl
  | cons c rest ih =>
      have hc : c.utf8Size = 1 := Char.utf8Size_eq_one_iff.2 (Nat.le_of_lt_succ (h c List.mem_cons_self))
      rw [String.ofList_cons, String.utf8ByteSize_append, String.utf8ByteSize_singleton, hc,
        ih fun d hd => h d (List.mem_cons_of_mem c hd), List.length_cons, Nat.add_comm]

theorem answerBy_eq_ok_iff {conversions : Conversions} {s accepted : String} :
    answerBy conversions s = .ok accepted ↔ accepted = s ∧ checkBy conversions s.toList = .ok () := by
  rw [answerBy]
  cases checkBy conversions s.toList with
  | ok => simp [Except.map, eq_comm]
  | error refusal => simp [Except.map]

theorem canonicalBy?_eq_some_iff {conversions : Conversions} {s form : String} :
    canonicalBy? conversions s = some form ↔ canonicalFormBy conversions s.toList = some form.toList := by
  rw [canonicalBy?, Option.map_eq_some_iff]
  constructor
  · rintro ⟨chars, hchars, rfl⟩
    rw [hchars, String.toList_ofList]
  · exact fun h => ⟨form.toList, h, String.ofList_toList⟩

/-- The bytes of an ASCII text and of its labels are its characters. -/
theorem bytes_iff_of_ascii {s : String} (h : AsciiText s.toList) :
    (s.utf8ByteSize ≤ 253 ∧ ∀ label ∈ labelsOf s, label.utf8ByteSize ≤ 63) ↔
      s.toList.length ≤ 253 ∧ ∀ label ∈ splitAt '.' s.toList, label.length ≤ 63 := by
  have hwhole := utf8ByteSize_of_ascii h
  rw [String.ofList_toList] at hwhole
  rw [hwhole, labelsOf, List.forall_mem_map]
  refine and_congr_right fun _ => forall₂_congr fun label hlabel => ?_
  rw [utf8ByteSize_of_ascii fun c hc => h c (mem_of_mem_splitAt hlabel hc)]

/-- By a lower-casing with its laws and a conversion to ASCII that leaves alone what it makes, canonical forms are
dotted labels and their own canonical forms, and a text is accepted exactly if it is its own canonical form and counts
no more than 253 bytes, and 63 in each label. What is accepted is the text itself. The lower-casing of the program has
the laws, and by its conversions the program canonicalizes and parses so. -/
theorem canonicalBy?_closure {lower : List Char → List Char} {ascii? : List Char → Option (List Char)}
    (hlower : IsLowering lower) (hascii : Settles ascii?) :
    (∀ raw form, canonicalBy? ⟨lower, ascii?⟩ raw = some form →
      canonicalBy? ⟨lower, ascii?⟩ form = some form ∧ IsDotted form) ∧
    (∀ s accepted, answerBy ⟨lower, ascii?⟩ s = .ok accepted ↔ accepted = s ∧
      canonicalBy? ⟨lower, ascii?⟩ s = some s ∧ s.utf8ByteSize ≤ 253 ∧
        ∀ label ∈ labelsOf s, label.utf8ByteSize ≤ 63) ∧
    IsLowering Conversions.standard.lower ∧
    ∀ raw, canonical? raw = canonicalBy? .standard raw ∧ (parse raw).map text = answerBy .standard raw := by
  have hsettles : Settles (Conversions.mk lower ascii?).ascii? := hascii
  refine ⟨fun raw form hform => ?_, fun s accepted => ?_, isLowering_lowercase, fun raw => ⟨rfl, map_text_parse raw⟩⟩
  · rw [canonicalBy?_eq_some_iff] at hform ⊢
    have hnormal := hsettles.normal_of_canonicalFormBy hlower hform
    refine ⟨hnormal.canonicalFormBy_eq, splitAt '.' form.toList, splitAt_ne_nil _ _, ?_, (joinWith_splitAt _ _).symm⟩
    exact hnormal.isLabel (hascii.ascii hnormal.ascii_eq) (hascii.uncapped hnormal.ascii_eq)
  · rw [answerBy_eq_ok_iff, checkBy_eq_ok_iff, canonicalBy?_eq_some_iff,
      hsettles.canonicalFormBy_eq_self_iff hlower]
    refine and_congr_right fun _ => and_congr_right fun hnormal => ?_
    exact (bytes_iff_of_ascii (hascii.ascii hnormal.ascii_eq)).symm

/-- A text with capitals, an encoded label and an empty one is mended in one go, and the outcome is accepted. -/
theorem canonicalBy?_closure_crowded :
    IsLowering lowercase ∧ Settles settledAscii? ∧
    canonicalBy? ⟨lowercase, settledAscii?⟩ "NS1.Bücher..example" = some "ns1.xn--bcher-kva.example" ∧
    canonicalBy? ⟨lowercase, settledAscii?⟩ "ns1.xn--bcher-kva.example" = some "ns1.xn--bcher-kva.example" ∧
    answerBy ⟨lowercase, settledAscii?⟩ "ns1.xn--bcher-kva.example" = .ok "ns1.xn--bcher-kva.example" := by
  obtain ⟨hform, haccepted, -⟩ := canonicalBy?_closure isLowering_lowercase settles_settledAscii?
  have hcanonical : canonicalBy? ⟨lowercase, settledAscii?⟩ "NS1.Bücher..example" =
      some "ns1.xn--bcher-kva.example" := by
    decide +kernel
  obtain ⟨hfixed, -⟩ := hform _ _ hcanonical
  refine ⟨isLowering_lowercase, settles_settledAscii?, hcanonical, hfixed, (haccepted _ _).2 ⟨rfl, hfixed, ?_, ?_⟩⟩
  · decide +kernel
  · decide +kernel

end Bailiwick.HostName
