import Bailiwick.Proofs.HostName.Closure
import Bailiwick.Proofs.HostName.Suffixes

/-!
The labels of a host name, seen through its operations. A suffix is the text of the last labels, in whatever way it is
come by: by the number of labels, behind a dot at some byte, in the row of the proper suffixes, or as a suffix of a
suffix. Where a name announces no encoding its suffixes are names too.
-/

namespace Bailiwick.HostName

open Text Unicode

variable {name : HostName} {count : Nat}

/-! ### Labels -/

theorem map_toList_labelsOf (s : String) : (labelsOf s).map String.toList = splitAt '.' s.toList := by
  have hsame : String.toList ∘ String.ofList = id := funext fun _ => String.toList_ofList
  rw [labelsOf, List.map_map, hsame, List.map_id]

/-- A text is its labels with dots between them. -/
theorem intercalate_labelsOf (s : String) : ".".intercalate (labelsOf s) = s := by
  apply String.toList_inj.1
  rw [String.toList_intercalate, map_toList_labelsOf]
  exact (joinWith_eq_intercalate '.' _).symm.trans (joinWith_splitAt '.' s.toList)

theorem suffix_of_labelCount_le (hpos : 0 < count) (h : name.labelCount ≤ count) : name.suffix count = name.text := by
  rw [suffix, if_neg (Nat.ne_of_gt hpos), Nat.sub_eq_zero_of_le h, afterDot, String.ofList_toList]

/-- The labels of a suffix are the last labels of the name, as many as asked for and there are. -/
theorem labelsOf_suffix_eq_rtake (hpos : 0 < count) : labelsOf (name.suffix count) = name.labels.rtake count := by
  rw [List.rtake, length_labels]
  rcases Nat.le_total count name.labelCount with hle | hge
  · exact labelsOf_suffix hpos hle
  · rw [suffix_of_labelCount_le hpos hge, Nat.sub_eq_zero_of_le hge]
    rfl

theorem suffix_eq_intercalate (name : HostName) (count : Nat) :
    name.suffix count = ".".intercalate (name.labels.rtake count) := by
  cases count with
  | zero =>
      rw [List.rtake_zero]
      rfl
  | succ count => rw [← labelsOf_suffix_eq_rtake (Nat.succ_pos count), intercalate_labelsOf]

/-- Of the last labels the last are the last of all. -/
theorem rtake_rtake {α : Type} (l : List α) (m n : Nat) : (l.rtake m).rtake n = l.rtake (min n m) := by
  simp only [List.rtake, List.drop_drop, List.length_drop]
  congr 1
  omega

theorem suffix_suffix {shorter : HostName} (hpos : 0 < count) (h : shorter.text = name.suffix count) (n : Nat) :
    shorter.suffix n = name.suffix (min n count) := by
  have hlabels : shorter.labels = name.labels.rtake count := by
    rw [← labelsOf_suffix_eq_rtake hpos, ← h]
    rfl
  rw [suffix_eq_intercalate, suffix_eq_intercalate, hlabels, rtake_rtake]

/-! ### Dots -/

theorem tailsAtDots_eq_map (s : List Char) :
    tailsAtDots s = (List.range (tailsAtDots s).length).map fun i => afterDot (i + 1) s := by
  induction s with
  | nil => rfl
  | cons c rest ih =>
      rw [tailsAtDots]
      by_cases hdot : c = '.'
      · rw [if_pos hdot, List.length_cons, List.range_succ_eq_map, List.map_cons, List.map_map]
        simp only [afterDot, if_pos hdot, Function.comp_def]
        exact congrArg _ ih
      · simp only [afterDot, if_neg hdot]
        exact ih

/-- The proper suffixes come with one label less each time. -/
theorem properSuffixes_eq_map (name : HostName) :
    name.properSuffixes = (List.range' 1 (name.labelCount - 1)).reverse.map name.suffix := by
  have hlength : (tailsAtDots name.text.toList).length = name.labelCount - 1 :=
    Nat.eq_sub_of_add_eq (length_tailsAtDots _)
  rw [properSuffixes, tailsAtDots_eq_map, hlength, List.reverse_range', List.map_map, List.map_map]
  refine List.map_congr_left fun i hi => ?_
  have hlt := List.mem_range.1 hi
  have hcount : 1 + (name.labelCount - 1) - 1 - i = name.labelCount - (i + 1) := by omega
  have hdot : name.labelCount - (name.labelCount - (i + 1)) = i + 1 := by omega
  rw [Function.comp_apply, Function.comp_apply, hcount, suffix, if_neg (by omega), hdot]

/-- The bytes at which the dots of a text stand, where its first character stands at a given one. -/
def dotOffsets (start : Nat) : List Char → List Nat
  | [] => []
  | c :: rest => if c = '.' then start :: dotOffsets (start + c.utf8Size) rest else dotOffsets (start + c.utf8Size) rest

/-- The byte of a name at which the suffix with some labels starts: the one behind the dot in front of it. -/
def suffixOffset (name : HostName) (count : Nat) : Nat :=
  if name.labelCount ≤ count then 0
  else ((dotOffsets 0 name.text.toList)[name.labelCount - count - 1]?.map (· + 1)).getD 0

theorem length_dotOffsets (start : Nat) (s : List Char) : (dotOffsets start s).length = (tailsAtDots s).length := by
  induction s generalizing start with
  | nil => rfl
  | cons c rest ih =>
      rw [dotOffsets, tailsAtDots]
      by_cases hdot : c = '.'
      · rw [if_pos hdot, if_pos hdot, List.length_cons, List.length_cons, ih]
      · rw [if_neg hdot, if_neg hdot, ih]

/-- What stands in front of a dot has as many bytes as the dot is away from the start. -/
theorem exists_front_of_dotOffsets {s : List Char} {start i offset : Nat}
    (h : (dotOffsets start s)[i]? = some offset) :
    ∃ front, s = front ++ '.' :: afterDot (i + 1) s ∧ start + (String.ofList front).utf8ByteSize = offset := by
  induction s generalizing start i with
  | nil => cases h
  | cons c rest ih =>
      have hcons (front : List Char) : (String.ofList (c :: front)).utf8ByteSize
          = c.utf8Size + (String.ofList front).utf8ByteSize := by
        rw [String.ofList_cons, String.utf8ByteSize_append, String.utf8ByteSize_singleton]
      rw [dotOffsets] at h
      -- A dot is the one asked for, or one dot less is asked for behind it.
      by_cases hdot : c = '.'
      · rw [if_pos hdot] at h
        cases i with
        | zero =>
            obtain rfl := Option.some.inj h
            refine ⟨[], ?_, rfl⟩
            rw [afterDot, if_pos hdot, afterDot, hdot, List.nil_append]
        | succ i =>
            obtain ⟨front, hsplit, hoffset⟩ := ih h
            refine ⟨c :: front, ?_, by rw [hcons, ← Nat.add_assoc, hoffset]⟩
            rw [afterDot, if_pos hdot, List.cons_append, ← hsplit]
      · rw [if_neg hdot] at h
        obtain ⟨front, hsplit, hoffset⟩ := ih h
        refine ⟨c :: front, ?_, by rw [hcons, ← Nat.add_assoc, hoffset]⟩
        rw [afterDot, if_neg hdot, List.cons_append, ← hsplit]

/-- A suffix starts where the name does or behind a dot, at its byte. -/
theorem exists_front_suffix (name : HostName) (hpos : 0 < count) :
    ∃ front : String, name.text = front ++ name.suffix count ∧ front.utf8ByteSize = name.suffixOffset count ∧
      (front = "" ∨ ∃ labels, front = labels ++ ".") := by
  rw [suffixOffset]
  by_cases hle : name.labelCount ≤ count
  · rw [suffix_of_labelCount_le hpos hle, if_pos hle]
    exact ⟨"", String.empty_append.symm, rfl, .inl rfl⟩
  · have hlt : name.labelCount - count - 1 < (dotOffsets 0 name.text.toList).length := by
      have hlength := length_tailsAtDots name.text.toList
      change _ = name.labelCount at hlength
      rw [length_dotOffsets]
      omega
    obtain ⟨front, hsplit, hoffset⟩ := exists_front_of_dotOffsets (List.getElem?_eq_getElem hlt)
    have hdot : name.labelCount - count - 1 + 1 = name.labelCount - count := by omega
    refine ⟨String.ofList front ++ ".", ?_, ?_, .inr ⟨String.ofList front, rfl⟩⟩
    · apply String.toList_inj.1
      rw [suffix, if_neg (Nat.ne_of_gt hpos), ← hdot]
      simp only [String.toList_append, String.toList_ofList, List.append_assoc]
      exact hsplit
    · rw [if_neg hle, List.getElem?_eq_getElem hlt, ← hoffset, Nat.zero_add, String.utf8ByteSize_append]
      rfl

/-! ### Acceptance -/

/-- What is made of some of the last labels of a text in the grammar is in the grammar. -/
theorem InGrammar.of_suffix {raw s : List Char} (h : InGrammar raw) (hchars : s <:+ raw)
    (hlabels : splitAt '.' s <:+ splitAt '.' raw) : InGrammar s where
  nonempty hnil := by
    subst hnil
    exact (h.labels [] (hlabels.subset List.mem_cons_self)).1 rfl
  plain c hc := h.plain c (hchars.subset hc)
  edges label hlabel := h.edges label (hlabels.subset hlabel)
  labels label hlabel := h.labels label (hlabels.subset hlabel)
  length := Nat.le_trans hchars.length_le h.length

theorem inGrammar_suffix (name : HostName) (hpos : 0 < count) : InGrammar (name.suffix count).toList := by
  obtain ⟨front, hsplit, -⟩ := exists_front_suffix name hpos
  have hchars : (name.suffix count).toList <:+ name.text.toList :=
    ⟨front.toList, by rw [← String.toList_append, ← hsplit]⟩
  refine name.inGrammar.of_suffix hchars ?_
  rw [← map_toList_labelsOf, ← map_toList_labelsOf, labelsOf_suffix_eq_rtake hpos]
  exact (List.drop_suffix _ _).map _

/-- A text in the grammar is accepted that has no label with the prefix of an encoding. -/
theorem InGrammar.answerBy_eq_ok {ascii? : List Char → Option (List Char)} (hplain : LeavesPlain ascii?) {s : String}
    (h : InGrammar s.toList) (hlabels : ∀ label ∈ splitAt '.' s.toList, ¬ Idna.acePrefix <+: label) :
    answerBy ⟨lowercase, ascii?⟩ s = .ok s := by
  have hupper : Uncapped s.toList := fun c hc => (h.plain c hc).permitted.2
  have hunannounced : Unannounced s.toList := by
    intro label hlabel
    rw [map_toLower_of_uncapped fun c hc => hupper c (mem_of_mem_splitAt hlabel hc), ← Bool.not_eq_true,
      List.isPrefixOf_iff_prefix]
    exact hlabels label hlabel
  refine answerBy_eq_ok_iff.2 ⟨rfl, ?_⟩
  rw [checkBy_eq_classify hplain (fun c hc => isPlain_ascii (h.plain c hc)) hunannounced]
  exact classify_eq_ok_iff.2 h

/-- The labels of a name are what stands between its dots, and there are as many as are counted. A suffix is its last
labels, as many as asked for and there are, and begins where the name does or right behind a dot. The proper suffixes are
those with one label less each time, down to one. A suffix of a suffix is the shorter one. Where no label announces an
encoding, each suffix but the empty one is accepted as a name, by any conversion that leaves plain texts alone. -/
theorem labels_agree {ascii? : List Char → Option (List Char)} (hplain : LeavesPlain ascii?) (name : HostName) :
    (".".intercalate name.labels = name.text ∧ ∀ label ∈ name.labels, label ≠ "" ∧ '.' ∉ label.toList) ∧
    name.labelCount = name.labels.length ∧
    (∀ count, name.suffix count = ".".intercalate (name.labels.rtake (min count name.labelCount))) ∧
    name.suffix 0 = "" ∧
    (∀ count, 0 < count → ∃ front : String, name.text = front ++ name.suffix count ∧
      front.utf8ByteSize = name.suffixOffset count ∧ (front = "" ∨ ∃ labels, front = labels ++ ".")) ∧
    name.properSuffixes = (List.range' 1 (name.labelCount - 1)).reverse.map name.suffix ∧
    (∀ (shorter : HostName) (count n : Nat), 0 < count → shorter.text = name.suffix count →
      shorter.suffix n = name.suffix (min n count)) ∧
    ((∀ label ∈ name.labels, ¬ Idna.acePrefix <+: label.toList) → ∀ count, name.suffix count ≠ "" →
      answerBy ⟨lowercase, ascii?⟩ (name.suffix count) = .ok (name.suffix count) ∧
        (parse (name.suffix count)).map text = .ok (name.suffix count)) := by
  have hpieces : name.labels.map String.toList = splitAt '.' name.text.toList := map_toList_labelsOf name.text
  refine ⟨⟨intercalate_labelsOf name.text, fun label hlabel => ?_⟩, name.length_labels.symm, fun count => ?_, rfl,
    fun count hpos => name.exists_front_suffix hpos, name.properSuffixes_eq_map,
    fun shorter count n hpos h => suffix_suffix hpos h n, fun hlabels count hne => ?_⟩
  · have hmem : label.toList ∈ splitAt '.' name.text.toList := hpieces ▸ List.mem_map_of_mem hlabel
    refine ⟨?_, not_mem_of_mem_splitAt hmem⟩
    rintro rfl
    exact (name.inGrammar.labels _ hmem).1 rfl
  · have hlength := name.length_labels
    rw [suffix_eq_intercalate, List.rtake, List.rtake, hlength]
    congr 2
    omega
  · have hpos : 0 < count := by
      refine Nat.pos_of_ne_zero ?_
      rintro rfl
      exact hne rfl
    have hgrammar := name.inGrammar_suffix hpos
    have hannounced : ∀ label ∈ splitAt '.' (name.suffix count).toList, ¬ Idna.acePrefix <+: label := by
      rw [← map_toList_labelsOf, labelsOf_suffix_eq_rtake hpos]
      refine List.forall_mem_map.2 fun label hlabel => hlabels label ?_
      exact (List.drop_suffix _ _).subset hlabel
    refine ⟨hgrammar.answerBy_eq_ok hplain hannounced, ?_⟩
    exact (map_text_parse _).trans (hgrammar.answerBy_eq_ok leavesPlain_toAscii hannounced)

/-- A name of four labels. -/
def nameserver : HostName := ⟨"ns1.example.co.uk", by rfl⟩

/-- Three suffixes in order, one of them behind twelve bytes; the longest is a name with suffixes of its own. -/
theorem labels_agree_nameserver :
    LeavesPlain Idna.toAscii ∧ nameserver.properSuffixes = ["example.co.uk", "co.uk", "uk"] ∧
      (∃ front, nameserver.text = front ++ nameserver.suffix 2 ∧ front.utf8ByteSize = 12) ∧
      (parse "example.co.uk").map text = .ok "example.co.uk" ∧
      ∀ shorter : HostName, shorter.text = "example.co.uk" → shorter.suffix 2 = "co.uk" := by
  obtain ⟨-, -, -, -, hfront, hproper, hshorter, haccepted⟩ := labels_agree leavesPlain_toAscii nameserver
  have hthree : nameserver.suffix 3 = "example.co.uk" := by decide +kernel
  have hannounced : ∀ label ∈ nameserver.labels, ¬ Idna.acePrefix <+: label.toList := by decide +kernel
  obtain ⟨front, hsplit, hoffset, -⟩ := hfront 2 (by decide)
  obtain ⟨-, hparsed⟩ := haccepted hannounced 3 (by rw [hthree]; decide)
  rw [hthree] at hparsed
  refine ⟨leavesPlain_toAscii, hproper.trans (by decide +kernel), ⟨front, hsplit, hoffset.trans (by decide +kernel)⟩,
    hparsed, fun shorter h => ?_⟩
  exact (hshorter shorter 3 2 (by decide) (h.trans hthree.symm)).trans (by decide +kernel)

end Bailiwick.HostName
