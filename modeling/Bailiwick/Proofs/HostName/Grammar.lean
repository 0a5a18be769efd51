import Bailiwick.Proofs.HostName.Checks
import Bailiwick.Proofs.Idna.Ascii

/-!
The grammar of host names, and what an ASCII text is refused for that does not follow it. Of the conversion to ASCII
only one thing counts there: it leaves a plain text alone whose labels announce no encoding.
-/

namespace Bailiwick.HostName

open Text Unicode

/-- The characters of texts that no conversion changes. -/
def IsPlain (c : Char) : Prop := c.isLower = true ∨ c.isDigit = true ∨ c = '-' ∨ c = '.'

instance (c : Char) : Decidable (IsPlain c) := inferInstanceAs (Decidable (_ ∨ _))

/-- No label announces an encoding, in lower case or in capitals. -/
def Unannounced (raw : List Char) : Prop :=
  ∀ label ∈ splitAt '.' raw, Idna.acePrefix.isPrefixOf (label.map Char.toLower) = false

instance (raw : List Char) : Decidable (Unannounced raw) :=
  inferInstanceAs (Decidable (∀ label ∈ splitAt '.' raw, _))

/-- A conversion to ASCII that leaves plain texts alone none of whose labels announces an encoding. -/
def LeavesPlain (ascii? : List Char → Option (List Char)) : Prop :=
  ∀ s, (∀ c ∈ s, IsPlain c) → (∀ label ∈ splitAt '.' s, Idna.acePrefix.isPrefixOf label = false) →
    ascii? s = some s

/-- The grammar of host names. -/
structure InGrammar (raw : List Char) : Prop where
  nonempty : raw ≠ []
  plain : ∀ c ∈ raw, IsPlain c
  edges : ∀ label ∈ splitAt '.' raw, label.head? ≠ some '-' ∧ label.getLast? ≠ some '-'
  labels : ∀ label ∈ splitAt '.' raw, label ≠ [] ∧ label.length ≤ 63
  length : raw.length ≤ 253

/-- Whether a text is empty, or has a character that host names do not have, or a hyphen at either end of a label. -/
def isMisshapen (raw : List Char) : Bool :=
  raw.isEmpty || !raw.all (fun c => c.isAlphanum || c = '-' || c = '.') ||
    (splitAt '.' raw).any fun label => label.head? = some '-' || label.getLast? = some '-'

/-- What an ASCII text is refused for whose labels announce no encoding. -/
def classify (raw : List Char) : Except Refusal Unit :=
  if isMisshapen raw then .error .invalidHostName
  else if ¬ Uncapped raw then .error (.hostNameNotLowerCase (String.ofList (raw.map Char.toLower)))
  else if raw.all fun c => c = '.' then .error .invalidHostName
  else if [] ∈ splitAt '.' raw then .error (.hostNameNotNormalized
    (String.ofList (joinWith '.' ((splitAt '.' raw).filter fun label => label ≠ []))))
  else if 253 < raw.length then .error .hostNameTooLong
  else if ∃ label ∈ splitAt '.' raw, 63 < label.length then .error .invalidHostName
  else .ok ()

theorem isPermitted_of_ascii {c : Char} (hc : c.toNat < 0x80) :
    isPermitted c = true ↔ c.isAlphanum = true ∨ c = '-' ∨ c = '.' := by
  have hhigh : decide (0x80 ≤ c.toNat) = false := decide_eq_false (Nat.not_le.2 hc)
  simp [isPermitted, hhigh, or_assoc]

/-- A permitted ASCII character that is no capital is plain. -/
theorem isPlain_of_not_isUpper {c : Char} (hpermitted : c.isAlphanum = true ∨ c = '-' ∨ c = '.')
    (hupper : c.isUpper = false) : IsPlain c := by
  rcases hpermitted with halnum | hdash | hdot
  · change ((c.isUpper || c.isLower) || c.isDigit) = true at halnum
    rw [hupper, Bool.false_or, Bool.or_eq_true] at halnum
    exact halnum.elim .inl fun hdigit => .inr (.inl hdigit)
  · exact .inr (.inr (.inl hdash))
  · exact .inr (.inr (.inr hdot))

theorem isPlain_ascii {c : Char} (h : IsPlain c) : c.toNat < 0x80 := by
  rcases h with hlower | hdigit | rfl | rfl
  · have hle : c.val.toNat ≤ 0x7A := by
      obtain ⟨-, hle⟩ := Bool.and_eq_true_iff.1 hlower
      exact of_decide_eq_true hle
    exact Nat.lt_of_le_of_lt hle (by decide)
  · have hle : c.val.toNat ≤ 0x39 := by
      simp only [Char.isDigit, Bool.and_eq_true, decide_eq_true_eq] at hdigit
      exact hdigit.2
    exact Nat.lt_of_le_of_lt hle (by decide)
  · decide
  · decide

/-- Plain characters are permitted, and none of them is a capital. -/
theorem IsPlain.permitted {c : Char} (h : IsPlain c) :
    (c.isAlphanum = true ∨ c = '-' ∨ c = '.') ∧ c.isUpper = false :=
  ascii_cases (P := fun c => IsPlain c → (c.isAlphanum = true ∨ c = '-' ∨ c = '.') ∧ c.isUpper = false) (by decide)
    (isPlain_ascii h) h

theorem toLower_eq_self_iff {c : Char} (hc : c.toNat < 0x80) : c.toLower = c ↔ c.isUpper = false :=
  ascii_cases (P := fun c => c.toLower = c ↔ c.isUpper = false) (by decide) hc

/-- An ASCII text is in lower case if it has no capital. -/
theorem lowercase_eq_self_iff {raw : List Char} (hascii : AsciiText raw) : lowercase raw = raw ↔ Uncapped raw := by
  rw [isLowering_lowercase.lower_of_ascii hascii]
  constructor
  · intro hmap c hc
    refine (toLower_eq_self_iff (hascii c hc)).1 ?_
    rw [← List.map_id raw, List.map_map] at hmap
    exact List.map_inj_left.1 hmap c hc
  · exact map_toLower_of_uncapped

variable {raw : List Char} {ascii? : List Char → Option (List Char)}

theorem dropEmptyLabels_eq (raw : List Char) :
    dropEmptyLabels raw = joinWith '.' ((splitAt '.' raw).filter fun label => label ≠ []) :=
  congrArg (joinWith '.') (List.filter_congr fun label _ => by cases label <;> rfl)

theorem isMisshapen_eq_false_iff : isMisshapen raw = false ↔ raw ≠ [] ∧
    (∀ c ∈ raw, c.isAlphanum = true ∨ c = '-' ∨ c = '.') ∧
      ∀ label ∈ splitAt '.' raw, label.head? ≠ some '-' ∧ label.getLast? ≠ some '-' := by
  simp only [isMisshapen, Bool.or_eq_false_iff, List.isEmpty_eq_false_iff, Bool.not_eq_false', List.all_eq_true,
    List.any_eq_false, Bool.or_eq_true, decide_eq_true_eq, not_or, and_assoc, or_assoc, ne_eq]

/-- An ASCII text is well-formed unless it is misshapen. -/
theorem isMisshapen_eq_false_iff_of_ascii (hascii : AsciiText raw) : isMisshapen raw = false ↔ WellFormed raw := by
  rw [isMisshapen_eq_false_iff]
  constructor
  · rintro ⟨hne, hpermitted, hedges⟩
    exact ⟨hne, fun c hc => (isPermitted_of_ascii (hascii c hc)).2 (hpermitted c hc), hedges⟩
  · rintro ⟨hne, hpermitted, hedges⟩
    exact ⟨hne, fun c hc => (isPermitted_of_ascii (hascii c hc)).1 (hpermitted c hc), hedges⟩

/-- A well-formed ASCII text without capitals is plain. -/
theorem WellFormed.isPlain (h : WellFormed raw) (hascii : AsciiText raw) (hupper : Uncapped raw) :
    ∀ c ∈ raw, IsPlain c :=
  fun c hc => isPlain_of_not_isUpper ((isPermitted_of_ascii (hascii c hc)).1 (h.permitted c hc)) (hupper c hc)

/-- In a text without capitals an encoding is announced as it stands. -/
theorem Unannounced.labels (h : Unannounced raw) (hupper : Uncapped raw) :
    ∀ label ∈ splitAt '.' raw, Idna.acePrefix.isPrefixOf label = false := by
  intro label hlabel
  have hsame : label.map Char.toLower = label :=
    map_toLower_of_uncapped fun c hc => hupper c (mem_of_mem_splitAt hlabel hc)
  rw [← hsame]
  exact h label hlabel

theorem leavesPlain_toAscii : LeavesPlain Idna.toAscii := fun _ hplain hlabels =>
  Idna.toAscii_of_ascii (fun c hc => isPlain_ascii (hplain c hc)) (fun c hc => (hplain c hc).permitted.2) hlabels

theorem all_dots_iff : (raw.all fun c => c = '.') = true ↔ dropEmptyLabels raw = [] := by
  rw [dropEmptyLabels_eq_nil_iff, properLabels_eq_nil_iff, List.all_eq_true]
  exact forall₂_congr fun _ _ => decide_eq_true_iff

/-- An ASCII text whose labels announce no encoding is checked as it is classified. -/
theorem checkBy_eq_classify (hplain : LeavesPlain ascii?) (hascii : AsciiText raw) (hraw : Unannounced raw) :
    checkBy ⟨lowercase, ascii?⟩ raw = classify raw := by
  have hshape := isMisshapen_eq_false_iff_of_ascii hascii
  rw [classify]
  -- The cases are the checks in their order.
  by_cases hwell : WellFormed raw
  · rw [if_neg (Bool.eq_false_iff.1 (hshape.2 hwell))]
    by_cases hupper : Uncapped raw
    · have hconverted : Converted ⟨lowercase, ascii?⟩ raw :=
        ⟨⟨hwell, (lowercase_eq_self_iff hascii).2 hupper⟩,
          hplain raw (hwell.isPlain hascii hupper) (hraw.labels hupper)⟩
      rw [if_neg (not_not.2 hupper)]
      by_cases hnil : dropEmptyLabels raw = []
      · rw [checkBy_of_dropEmptyLabels_eq_nil hconverted hnil, if_pos (all_dots_iff.2 hnil)]
      · rw [if_neg (mt all_dots_iff.1 hnil)]
        by_cases hempty : [] ∈ splitAt '.' raw
        · have hproper : dropEmptyLabels raw ≠ raw := fun h => (dropEmptyLabels_eq_self_iff hnil).1 h hempty
          rw [checkBy_of_dropEmptyLabels_ne hconverted hnil hproper, if_pos hempty, dropEmptyLabels_eq]
        · rw [checkBy_of_normal ⟨hconverted, (dropEmptyLabels_eq_self_iff hnil).2 hempty⟩, if_neg hempty]
    · have hlower : lowercase raw ≠ raw := mt (lowercase_eq_self_iff hascii).1 hupper
      have hmap : lowercase raw = raw.map Char.toLower := isLowering_lowercase.lower_of_ascii hascii
      rw [checkBy_of_lower_ne hwell hlower, if_pos hupper, ← hmap]
  · rw [checkBy_of_not_wellFormed hwell, if_pos (Bool.not_eq_false _ ▸ mt hshape.1 hwell)]

theorem ite_error_eq_ok_iff {p : Prop} [Decidable p] {refusal : Refusal} {rest : Except Refusal Unit} :
    (if p then .error refusal else rest) = .ok () ↔ ¬ p ∧ rest = .ok () := by
  by_cases hp : p
  · simp [hp]
  · simp [hp]

/-- What is refused for nothing is in the grammar. -/
theorem classify_eq_ok_iff : classify raw = .ok () ↔ InGrammar raw := by
  simp only [classify, ite_error_eq_ok_iff]
  constructor
  · rintro ⟨hshape, hupper, -, hempty, hlong, hlabel, -⟩
    obtain ⟨hne, hpermitted, hedges⟩ := isMisshapen_eq_false_iff.1 (Bool.eq_false_iff.2 hshape)
    refine ⟨hne, fun c hc => isPlain_of_not_isUpper (hpermitted c hc) (not_not.1 hupper c hc), hedges,
      fun label hmem => ⟨fun hnil => hempty (hnil ▸ hmem), ?_⟩, Nat.not_lt.1 hlong⟩
    exact Nat.not_lt.1 fun hlt => hlabel ⟨label, hmem, hlt⟩
  · intro h
    have hempty : [] ∉ splitAt '.' raw := fun hmem => (h.labels [] hmem).1 rfl
    refine ⟨?_, not_not.2 fun c hc => (h.plain c hc).permitted.2, fun hdots => ?_, hempty, Nat.not_lt.2 h.length, ?_,
      trivial⟩
    · exact Bool.eq_false_iff.1
        (isMisshapen_eq_false_iff.2 ⟨h.nonempty, fun c hc => (h.plain c hc).permitted.1, h.edges⟩)
    · have hnone := dropEmptyLabels_eq_nil_iff.1 (all_dots_iff.1 hdots)
      rw [properLabels_eq_self_iff.2 hempty] at hnone
      exact splitAt_ne_nil '.' raw hnone
    · rintro ⟨label, hlabel, hlong⟩
      exact Nat.not_lt.2 (h.labels label hlabel).2 hlong

/-- An ASCII text that passes every check is in the grammar, whatever the conversion. -/
theorem inGrammar_of_checkBy_eq_ok (hascii : AsciiText raw) (h : checkBy ⟨lowercase, ascii?⟩ raw = .ok ()) :
    InGrammar raw := by
  have hnormal := normal_of_checkBy_eq_ok h
  rw [checkBy_of_normal hnormal, ite_error_eq_ok_iff, ite_error_eq_ok_iff] at h
  obtain ⟨hlong, hlabel, -⟩ := h
  have hproper : dropEmptyLabels raw ≠ [] := by
    rw [hnormal.proper]
    exact hnormal.nonempty
  have hempty : [] ∉ splitAt '.' raw := (dropEmptyLabels_eq_self_iff hproper).1 hnormal.proper
  have hupper : Uncapped raw := (lowercase_eq_self_iff hascii).1 hnormal.lower_eq
  refine ⟨hnormal.nonempty, hnormal.isPlain hascii hupper, hnormal.edges,
    fun label hmem => ⟨fun hnil => hempty (hnil ▸ hmem), ?_⟩, Nat.not_lt.1 hlong⟩
  exact Nat.not_lt.1 fun hlt => hlabel ⟨label, hmem, hlt⟩

/-- Every host name is in the grammar. -/
theorem inGrammar (name : HostName) : InGrammar name.text.toList := by
  have haccepted : checkBy ⟨lowercase, Idna.toAscii⟩ name.text.toList = .ok () := name.accepted
  exact inGrammar_of_checkBy_eq_ok (Idna.ascii_of_toAscii (normal_of_checkBy_eq_ok haccepted).ascii_eq) haccepted

/-- What a text is answered that is submitted as a host name: itself, or its first fault by some conversions. -/
def answerBy (conversions : Conversions) (raw : String) : Except Refusal String :=
  (checkBy conversions raw.toList).map fun _ => raw

/-- Parsing answers by the standard conversions. -/
theorem map_text_parse (raw : String) : (parse raw).map text = answerBy .standard raw := by
  rw [parse]
  split
  · next h => exact (congrArg (Except.map fun _ => raw) h).symm
  · next h => exact (congrArg (Except.map fun _ => raw) h).symm

/-- An ASCII text none of whose labels announces an encoding is accepted as a host name, and nothing but the text,
exactly if it follows the grammar, and where it does not, the first of its faults is told. That is so through either
conversion to host names and whatever else the conversion to ASCII does, and every host name follows the grammar. -/
theorem parse_classifies (hplain : LeavesPlain ascii?) :
    (∀ raw : String, AsciiText raw.toList → Unannounced raw.toList →
      answerBy ⟨lowercase, ascii?⟩ raw = (classify raw.toList).map (fun _ => raw) ∧
      (parse raw).map text = (classify raw.toList).map (fun _ => raw) ∧
      (ofString raw).map text = (classify raw.toList).map (fun _ => raw) ∧
      (∀ slice : String.Slice, slice.copy = raw →
        (ofSlice slice).map text = (classify raw.toList).map fun _ => raw) ∧
      (classify raw.toList = .ok () ↔ InGrammar raw.toList)) ∧
    (∀ raw, AsciiText raw → checkBy ⟨lowercase, ascii?⟩ raw = .ok () → InGrammar raw) ∧
    ∀ name : HostName, InGrammar name.text.toList := by
  refine ⟨fun raw hascii hraw => ?_, fun raw => inGrammar_of_checkBy_eq_ok, inGrammar⟩
  have hanswer {convert : List Char → Option (List Char)} (hconvert : LeavesPlain convert) :
      answerBy ⟨lowercase, convert⟩ raw = (classify raw.toList).map fun _ => raw :=
    congrArg (Except.map fun _ => raw) (checkBy_eq_classify hconvert hascii hraw)
  have hparse : (parse raw).map text = (classify raw.toList).map fun _ => raw :=
    (map_text_parse raw).trans (hanswer leavesPlain_toAscii)
  refine ⟨hanswer hplain, hparse, hparse, ?_, classify_eq_ok_iff⟩
  rintro slice rfl
  exact hparse

/-- Two faults are told of one at a time: first the capitals, and when they are gone the empty label. -/
theorem parse_classifies_crowded :
    LeavesPlain Idna.toAscii ∧
    (parse "NS1..example.tld").map text = .error (.hostNameNotLowerCase "ns1..example.tld") ∧
    (ofString "ns1..example.tld").map text = .error (.hostNameNotNormalized "ns1.example.tld") ∧
    (ofSlice "ns1.example.tld".toSlice).map text = .ok "ns1.example.tld" := by
  obtain ⟨hall, -, -⟩ := parse_classifies leavesPlain_toAscii
  obtain ⟨-, hcapitals, -⟩ := hall "NS1..example.tld" (by decide) (by decide)
  obtain ⟨-, -, hempty, -⟩ := hall "ns1..example.tld" (by decide) (by decide)
  obtain ⟨-, -, -, hnormal, -⟩ := hall "ns1.example.tld" (by decide) (by decide)
  refine ⟨leavesPlain_toAscii, hcapitals.trans ?_, hempty.trans ?_, (hnormal _ String.copy_toSlice).trans ?_⟩
  · decide
  · decide
  · decide

end Bailiwick.HostName
