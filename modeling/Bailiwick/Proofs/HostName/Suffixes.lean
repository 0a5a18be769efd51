import Bailiwick.HostName.Basic
import Bailiwick.Proofs.Text

/-!
The suffixes of a host name. They come with ever fewer labels, so the first that has some property is the
longest that has it.
-/

namespace Bailiwick.HostName

open Text

theorem length_splitAt_cons (sep c : Char) (rest : List Char) :
    (splitAt sep (c :: rest)).length = (splitAt sep rest).length + if c = sep then 1 else 0 := by
  rw [splitAt]
  by_cases h : c = sep
  · rw [if_pos h, if_pos h, List.length_cons]
  · rw [if_neg h, if_neg h]
    cases hpieces : splitAt sep rest with
    | nil => exact absurd hpieces (splitAt_ne_nil sep rest)
    | cons piece pieces => rfl

/-- What follows the dots of a text are the texts made of some of its labels from the right, but not of all. -/
theorem mem_tailsAtDots_iff {s tail : List Char} :
    tail ∈ tailsAtDots s ↔ splitAt '.' tail <:+ (splitAt '.' s).tail := by
  induction s with
  | nil => simp [tailsAtDots, splitAt, splitAt_ne_nil]
  | cons c rest ih =>
      obtain ⟨first, labels, hsplit⟩ := List.exists_cons_of_ne_nil (splitAt_ne_nil '.' rest)
      rw [hsplit, List.tail_cons] at ih
      rw [tailsAtDots, splitAt]
      by_cases hdot : c = '.'
      · have hwhole : tail = rest ↔ splitAt '.' tail = first :: labels :=
          ⟨fun h => by rw [h, hsplit], fun h => splitAt_injective '.' (h.trans hsplit.symm)⟩
        rw [if_pos hdot, if_pos hdot, List.mem_cons, List.tail_cons, hsplit, List.suffix_cons_iff, ih, hwhole]
      · rw [if_neg hdot, if_neg hdot, hsplit, ih, List.tail_cons]

/-- What follows the first dot of a text has the labels after the first. -/
theorem splitAt_of_tailsAtDots_eq_cons {s tail : List Char} {shorter : List (List Char)}
    (h : tailsAtDots s = tail :: shorter) : splitAt '.' tail = (splitAt '.' s).tail := by
  induction s with
  | nil => cases h
  | cons c rest ih =>
      rw [tailsAtDots] at h
      rw [splitAt]
      by_cases hdot : c = '.'
      · rw [if_pos hdot] at h ⊢
        rw [(List.cons.inj h).1, List.tail_cons]
      · obtain ⟨first, labels, hsplit⟩ := List.exists_cons_of_ne_nil (splitAt_ne_nil '.' rest)
        rw [if_neg hdot] at h ⊢
        rw [ih h, hsplit, List.tail_cons, List.tail_cons]

theorem length_tailsAtDots (s : List Char) : (tailsAtDots s).length + 1 = (splitAt '.' s).length := by
  induction s with
  | nil => rfl
  | cons c rest ih =>
      rw [length_splitAt_cons, tailsAtDots, ← ih]
      by_cases hdot : c = '.'
      · rw [if_pos hdot, if_pos hdot, List.length_cons]
      · rw [if_neg hdot, if_neg hdot]

/-- What follows a dot has fewer labels. -/
theorem length_splitAt_lt_of_mem {s tail : List Char} (h : tail ∈ tailsAtDots s) :
    (splitAt '.' tail).length < (splitAt '.' s).length := by
  induction s with
  | nil => cases h
  | cons c rest ih =>
      rw [length_splitAt_cons]
      rw [tailsAtDots] at h
      by_cases hdot : c = '.'
      · rw [if_pos hdot] at h
        rw [if_pos hdot]
        rcases List.mem_cons.1 h with rfl | h
        · exact Nat.lt_succ_self _
        · exact Nat.lt_succ_of_lt (ih h)
      · rw [if_neg hdot] at h
        rw [if_neg hdot]
        exact ih h

theorem pairwise_tailsAtDots (s : List Char) :
    (tailsAtDots s).Pairwise fun longer shorter => (splitAt '.' shorter).length < (splitAt '.' longer).length := by
  induction s with
  | nil => exact List.Pairwise.nil
  | cons c rest ih =>
      rw [tailsAtDots]
      by_cases hdot : c = '.'
      · rw [if_pos hdot]
        exact List.pairwise_cons.2 ⟨fun tail h => length_splitAt_lt_of_mem h, ih⟩
      · rw [if_neg hdot]
        exact ih

/-- The longest suffix comes first. -/
theorem pairwise_properSuffixes (name : HostName) :
    name.properSuffixes.Pairwise fun longer shorter => countLabels shorter < countLabels longer := by
  rw [properSuffixes, List.pairwise_map]
  refine (pairwise_tailsAtDots name.text.toList).imp fun h => ?_
  rw [countLabels, countLabels, String.toList_ofList, String.toList_ofList]
  exact h

/-- The first suffix with some property is the longest with it. -/
theorem countLabels_le_of_find? {name : HostName} {p : String → Bool} {suffix : String}
    (h : name.properSuffixes.find? p = some suffix) {other : String} (hmem : other ∈ name.properSuffixes)
    (hother : p other = true) : countLabels other ≤ countLabels suffix := by
  obtain ⟨-, before, after, hsplit, hbefore⟩ := List.find?_eq_some_iff_append.1 h
  have hsorted := name.pairwise_properSuffixes
  rw [hsplit] at hmem hsorted
  rcases List.mem_append.1 hmem with hearlier | hlater
  · have hnot := hbefore other hearlier
    rw [hother] at hnot
    cases hnot
  · rcases List.mem_cons.1 hlater with rfl | hlater
    · exact Nat.le_refl _
    · exact Nat.le_of_lt (List.rel_of_pairwise_cons (List.pairwise_append.1 hsorted).2.1 hlater)

/-- What follows a dot has the labels behind it. -/
theorem splitAt_afterDot {n : Nat} {s : List Char} (h : n < (splitAt '.' s).length) :
    splitAt '.' (afterDot n s) = (splitAt '.' s).drop n := by
  induction s generalizing n with
  | nil =>
      obtain rfl : n = 0 := Nat.lt_one_iff.1 h
      rfl
  | cons c rest ih =>
      cases n with
      | zero => rfl
      | succ n =>
          rw [length_splitAt_cons] at h
          rw [afterDot, splitAt]
          by_cases hdot : c = '.'
          · rw [if_pos hdot] at h
            rw [if_pos hdot, if_pos hdot, List.drop_succ_cons]
            exact ih (by omega)
          · rw [if_neg hdot] at h
            rw [if_neg hdot, if_neg hdot, ih h]
            cases hpieces : splitAt '.' rest with
            | nil => exact absurd hpieces (splitAt_ne_nil '.' rest)
            | cons piece pieces => rfl

/-- The labels of a suffix are the rightmost labels of the name. -/
theorem labelsOf_suffix {name : HostName} {count : Nat} (hpos : 0 < count) (hle : count ≤ name.labelCount) :
    labelsOf (name.suffix count) = name.labels.drop (name.labelCount - count) := by
  have hlt : name.labelCount - count < (splitAt '.' name.text.toList).length := by
    change name.labelCount - count < name.labelCount
    omega
  rw [suffix, if_neg (Nat.ne_of_gt hpos), labelsOf, String.toList_ofList, splitAt_afterDot hlt, List.map_drop]
  rfl

/-- A text is its labels. -/
theorem labelsOf_injective {s t : String} (h : labelsOf s = labelsOf t) : s = t := by
  have hpieces : splitAt '.' s.toList = splitAt '.' t.toList :=
    (List.map_inj_right fun _ _ => String.ofList_injective).1 h
  exact String.toList_injective (splitAt_injective '.' hpieces)

theorem length_labelsOf (s : String) : (labelsOf s).length = countLabels s := List.length_map _

theorem labelsOf_ne_nil (s : String) : labelsOf s ≠ [] :=
  fun h => splitAt_ne_nil '.' s.toList (List.map_eq_nil_iff.1 h)

theorem length_labels (name : HostName) : name.labels.length = name.labelCount := length_labelsOf name.text

/-- The labels of a suffix, for any labels from the right. -/
theorem labelsOf_suffix_length {name : HostName} {labels : List String} (h : labels <:+ name.labels)
    (hne : labels ≠ []) : labelsOf (name.suffix labels.length) = labels := by
  have hle := h.length_le
  rw [length_labels] at hle
  rw [labelsOf_suffix (List.length_pos_iff.2 hne) hle, ← length_labels]
  exact (List.suffix_iff_eq_drop.1 h).symm

/-- A text made of labels of a name from the right is the suffix with as many labels. -/
theorem eq_suffix_of_labelsOf {name : HostName} {s : String} (h : labelsOf s <:+ name.labels) :
    s = name.suffix (labelsOf s).length :=
  labelsOf_injective (labelsOf_suffix_length h (labelsOf_ne_nil s)).symm

/-- The proper suffixes of a name are the texts made of some of its labels from the right, but not of all. -/
theorem mem_properSuffixes_iff {name : HostName} {s : String} :
    s ∈ name.properSuffixes ↔ labelsOf s <:+ name.labels.tail := by
  have hmap (pieces : List (List Char)) :
      labelsOf s <:+ pieces.map String.ofList ↔ splitAt '.' s.toList <:+ pieces := by
    refine ⟨fun h => ?_, fun h => h.map String.ofList⟩
    have hback := h.map String.toList
    simpa [labelsOf, Function.comp_def] using hback
  rw [labels, labelsOf, labelsOf, ← List.map_tail]
  rw [← labelsOf, hmap, ← mem_tailsAtDots_iff, properSuffixes, List.mem_map]
  constructor
  · rintro ⟨tail, htail, rfl⟩
    rwa [String.toList_ofList]
  · exact fun h => ⟨s.toList, h, String.ofList_toList⟩

theorem countLabels_suffix {name : HostName} {count : Nat} (hpos : 0 < count) (hle : count ≤ name.labelCount) :
    countLabels (name.suffix count) = count := by
  rw [← length_labelsOf, labelsOf_suffix hpos hle, List.length_drop, length_labels]
  omega

/-- A suffix with fewer labels than the name is a proper one. -/
theorem suffix_mem_properSuffixes {name : HostName} {count : Nat} (hpos : 0 < count) (hlt : count < name.labelCount) :
    name.suffix count ∈ name.properSuffixes := by
  rw [mem_properSuffixes_iff, labelsOf_suffix hpos (Nat.le_of_lt hlt), ← List.drop_one]
  have hsplit : name.labelCount - count = 1 + (name.labelCount - count - 1) := by omega
  rw [hsplit, ← List.drop_drop]
  exact List.drop_suffix _ _

/-- A name and its proper suffixes are the texts made of some of its labels from the right. -/
theorem mem_suffixes_iff {name : HostName} {s : String} :
    s ∈ name.text :: name.properSuffixes ↔ labelsOf s <:+ name.labels := by
  obtain ⟨first, rest, hlabels⟩ := List.exists_cons_of_ne_nil (labelsOf_ne_nil name.text)
  have hwhole : s = name.text ↔ labelsOf s = first :: rest :=
    ⟨fun h => by rw [h, hlabels], fun h => labelsOf_injective (h.trans hlabels.symm)⟩
  rw [List.mem_cons, mem_properSuffixes_iff, labels, hlabels, List.tail_cons, List.suffix_cons_iff, hwhole]

/-- A name and its proper suffixes, with ever fewer labels. -/
theorem pairwise_suffixes (name : HostName) : (name.text :: name.properSuffixes).Pairwise
    fun longer shorter => countLabels shorter < countLabels longer := by
  refine List.pairwise_cons.2 ⟨fun s hs => ?_, name.pairwise_properSuffixes⟩
  have hle := (mem_properSuffixes_iff.1 hs).length_le
  rw [length_labelsOf, List.length_tail, length_labels, labelCount] at hle
  have hpos : 0 < countLabels s := by
    rw [← length_labelsOf]
    exact List.length_pos_iff.2 (labelsOf_ne_nil s)
  omega

end Bailiwick.HostName
