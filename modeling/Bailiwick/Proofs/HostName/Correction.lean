import Bailiwick.Proofs.HostName.Grammar

/-!
Where a client gets to that resubmits what it is told to. Each refusal with a correction is for a later check than the
one before, since a mended text passes the checks that its mending was not for: lower-casing keeps hyphens and dots in
their places, and ASCII forms are in lower case.
-/

namespace Bailiwick.HostName

open Text Unicode

section Lowering

variable {c d : Char} {raw piece : List Char} {pieces : List (List Char)}

/-- Characters only become ASCII letters, unless they stay what they are. -/
theorem eq_of_becomes (h : Becomes c piece) (hd : d ∈ piece) (hascii : d.toNat < 0x80)
    (hletter : d.isAlpha = false) : d = c := by
  by_cases hc : c.toNat < 0x80
  · have hstays : c.toLower.isAlpha = false → c.toLower = c :=
      ascii_cases (P := fun c => c.toLower.isAlpha = false → c.toLower = c) (by decide) hc
    rw [h.ascii hc, List.mem_singleton] at hd
    rw [hd] at hletter ⊢
    exact hstays hletter
  · have halpha := h.letters (Nat.not_lt.1 hc) d hd hascii
    rw [hletter] at halpha
    cases halpha

theorem isPermitted_of_becomes (h : Becomes c piece) (hc : isPermitted c = true) :
    ∀ d ∈ piece, isPermitted d = true := by
  intro d hd
  by_cases hascii : d.toNat < 0x80
  · by_cases hletter : d.isAlpha = true
    · exact (isPermitted_of_ascii hascii).2 (.inl (by rw [Char.isAlphanum, hletter, Bool.true_or]))
    · rwa [eq_of_becomes h hd hascii (Bool.eq_false_iff.2 hletter)]
  · simp [isPermitted, Nat.not_lt.1 hascii]

theorem flatten_eq_nil_iff (h : List.Forall₂ Becomes raw pieces) : pieces.flatten = [] ↔ raw = [] := by
  cases h with
  | nil => exact ⟨fun _ => rfl, fun _ => rfl⟩
  | cons hfirst _ =>
      rw [List.flatten_cons, List.append_eq_nil_iff]
      exact ⟨fun ⟨hnil, _⟩ => absurd hnil hfirst.nonempty, nofun⟩

theorem head?_of_flatten (h : List.Forall₂ Becomes raw pieces) (hhead : pieces.flatten.head? = some '-') :
    raw.head? = some '-' := by
  cases h with
  | nil => cases hhead
  | @cons c piece rest pieces hfirst _ =>
      rw [List.flatten_cons, List.head?_append_of_ne_nil _ hfirst.nonempty] at hhead
      rw [List.head?_cons, eq_of_becomes hfirst (List.mem_of_mem_head? hhead) (by decide) (by decide)]

theorem getLast?_of_flatten (h : List.Forall₂ Becomes raw pieces) (hlast : pieces.flatten.getLast? = some '-') :
    raw.getLast? = some '-' := by
  induction h with
  | nil => cases hlast
  | @cons c piece rest pieces hfirst hrest ih =>
      rw [List.flatten_cons] at hlast
      by_cases hnil : rest = []
      · subst hnil
        rw [(flatten_eq_nil_iff hrest).2 rfl, List.append_nil] at hlast
        rw [eq_of_becomes hfirst (List.mem_of_getLast? hlast) (by decide) (by decide)]
        rfl
      · rw [List.getLast?_append_of_ne_nil _ (mt (flatten_eq_nil_iff hrest).1 hnil)] at hlast
        rw [List.getLast?_cons, ih hlast]
        rfl

theorem exists_of_mem_right {α β : Type} {r : α → β → Prop} {as : List α} {bs : List β} {b : β}
    (h : List.Forall₂ r as bs) (hb : b ∈ bs) : ∃ a ∈ as, r a b := by
  induction h with
  | nil => cases hb
  | @cons a _ _ _ hfirst _ ih =>
      rcases List.mem_cons.1 hb with rfl | hb
      · exact ⟨a, List.mem_cons_self, hfirst⟩
      · obtain ⟨other, hmem, hother⟩ := ih hb
        exact ⟨other, List.mem_cons_of_mem _ hmem, hother⟩

/-- The labels of what a text becomes are what its labels become. -/
theorem splitAt_flatten (h : List.Forall₂ Becomes raw pieces) :
    List.Forall₂ (fun label lowered => ∃ parts, List.Forall₂ Becomes label parts ∧ lowered = parts.flatten)
      (splitAt '.' raw) (splitAt '.' pieces.flatten) := by
  induction h with
  | nil => exact .cons ⟨[], .nil, rfl⟩ .nil
  | @cons c piece rest pieces hfirst _ ih =>
      -- A dot stays one, and nothing else becomes one: a label ends exactly where it did.
      by_cases hdot : c = '.'
      · subst hdot
        rw [hfirst.ascii (by decide), List.flatten_cons]
        change List.Forall₂ _ (splitAt '.' ('.' :: rest)) (splitAt '.' ('.' :: pieces.flatten))
        rw [splitAt_cons_sep, splitAt_cons_sep]
        exact .cons ⟨[], .nil, rfl⟩ ih
      · have hpiece : '.' ∉ piece := fun hmem => hdot (eq_of_becomes hfirst hmem (by decide) (by decide)).symm
        obtain ⟨lowered, lowereds, hsplit, hlowered⟩ := splitAt_append hpiece pieces.flatten
        obtain ⟨label, labels, hlabels, hlabel⟩ := splitAt_cons_of_ne hdot rest
        rw [hsplit, hlabels] at ih
        obtain ⟨⟨parts, hparts, hflat⟩, htail⟩ := List.forall₂_cons.1 ih
        rw [List.flatten_cons, hlowered, hlabel]
        exact .cons ⟨piece :: parts, .cons hfirst hparts, by rw [hflat, List.flatten_cons]⟩ htail

/-- Lower-casing leaves a text well-formed. -/
theorem WellFormed.lower {lower : List Char → List Char} (hlower : IsLowering lower) (h : WellFormed raw) :
    WellFormed (lower raw) := by
  obtain ⟨pieces, hpieces, hflat⟩ := hlower.piecewise raw
  rw [hflat]
  refine ⟨mt (flatten_eq_nil_iff hpieces).1 h.nonempty, fun d hd => ?_, fun lowered hlowered => ?_⟩
  · obtain ⟨piece, hpiece, hd⟩ := List.mem_flatten.1 hd
    obtain ⟨c, hc, hbecomes⟩ := exists_of_mem_right hpieces hpiece
    exact isPermitted_of_becomes hbecomes (h.permitted c hc) d hd
  · obtain ⟨label, hlabel, parts, hparts, rfl⟩ := exists_of_mem_right (splitAt_flatten hpieces) hlowered
    exact ⟨fun hhead => (h.edges label hlabel).1 (head?_of_flatten hparts hhead),
      fun hlast => (h.edges label hlabel).2 (getLast?_of_flatten hparts hlast)⟩

end Lowering

/-- What a refusal may ask a client to mend, in the order of the checks. -/
inductive Correction where
  | lowerCase
  | punyCoded
  | normalized
  deriving DecidableEq

/-- The correction that an answer asks for, with the text that is expected. -/
def correction? : Except Refusal String → Option (Correction × String)
  | .error (.hostNameNotLowerCase expected) => some (.lowerCase, expected)
  | .error (.hostNameNotPunyCoded expected) => some (.punyCoded, expected)
  | .error (.hostNameNotNormalized expected) => some (.normalized, expected)
  | _ => none

/-- A text is submitted, and then whatever text is expected instead, until the answer asks for no correction any more.
The corrections stand in the order in which they were asked for, the answer is the last one. -/
inductive Resubmits (conversions : Conversions) : String → List Correction → Except Refusal String → Prop where
  | settled {raw : String} (h : correction? (answerBy conversions raw) = none) :
      Resubmits conversions raw [] (answerBy conversions raw)
  | corrected {raw expected : String} {kind : Correction} {kinds : List Correction} {answer : Except Refusal String}
      (h : correction? (answerBy conversions raw) = some (kind, expected))
      (hrest : Resubmits conversions expected kinds answer) : Resubmits conversions raw (kind :: kinds) answer

/-- How the resubmission ends of a text with a canonical form or without. -/
inductive Concludes : Option (List Char) → Except Refusal String → Prop where
  | hopeless : Concludes none (.error .invalidHostName)
  | accepted {form : List Char} : Concludes (some form) (.ok (String.ofList form))
  | tooLong {form : List Char} : Concludes (some form) (.error .hostNameTooLong)
  | longLabel {form label : List Char} (hlabel : label ∈ splitAt '.' form) (hlong : 63 < label.length) :
      Concludes (some form) (.error .invalidHostName)

/-- A conversion to ASCII that makes no capitals and leaves alone what it makes, also when the empty labels are gone. -/
structure Settles (ascii? : List Char → Option (List Char)) : Prop where
  ascii : ∀ {s t}, ascii? s = some t → AsciiText t
  uncapped : ∀ {s t}, ascii? s = some t → Uncapped t
  fixed : ∀ {s t}, ascii? s = some t → ascii? t = some t
  proper : ∀ {s t}, ascii? s = some t → ascii? (dropEmptyLabels t) = some (dropEmptyLabels t)

section Resubmission

variable {conversions : Conversions} {raw ascii : List Char}

/-- There is one way to resubmit a text. -/
theorem Resubmits.unique {raw : String} {kinds kinds' : List Correction} {answer answer' : Except Refusal String}
    (h : Resubmits conversions raw kinds answer) (h' : Resubmits conversions raw kinds' answer') :
    kinds = kinds' ∧ answer = answer' := by
  induction h generalizing kinds' with
  | settled hnone =>
      cases h' with
      | settled => exact ⟨rfl, rfl⟩
      | corrected hsome =>
          rw [hnone] at hsome
          cases hsome
  | corrected hsome _ ih =>
      cases h' with
      | settled hnone =>
          rw [hnone] at hsome
          cases hsome
      | corrected hsome' hrest' =>
          obtain ⟨rfl, rfl⟩ := Prod.mk.inj (Option.some.inj (hsome.symm.trans hsome'))
          obtain ⟨rfl, hanswer⟩ := ih hrest'
          exact ⟨rfl, hanswer⟩

theorem canonicalFormBy_of_not_wellFormed (h : ¬ WellFormed raw) : canonicalFormBy conversions raw = none := by
  simp only [canonicalFormBy, isWellFormed_eq_false_iff.2 h, Bool.false_eq_true, if_false]

theorem canonicalFormBy_of_toAscii?_eq_none (h : WellFormed raw)
    (hnone : conversions.toAscii? (conversions.lower raw) = none) : canonicalFormBy conversions raw = none := by
  simp only [canonicalFormBy, isWellFormed_iff.2 h, hnone, if_true]

theorem canonicalFormBy_of_toAscii?_eq_some (h : WellFormed raw)
    (hascii : conversions.toAscii? (conversions.lower raw) = some ascii) : canonicalFormBy conversions raw =
      if dropEmptyLabels ascii = [] then none else some (dropEmptyLabels ascii) := by
  simp only [canonicalFormBy, isWellFormed_iff.2 h, hascii, if_true, List.isEmpty_iff]

/-- The resubmission of a text ends as its canonical form has it, after some of the corrections, in their order. -/
def Converges (conversions : Conversions) (raw : List Char) (allowed : List Correction)
    (canonical : Option (List Char)) : Prop :=
  ∃ kinds answer, Resubmits conversions (String.ofList raw) kinds answer ∧ kinds.Sublist allowed ∧
    Concludes canonical answer

theorem answerBy_ofList (conversions : Conversions) (raw : List Char) : answerBy conversions (String.ofList raw) =
    (checkBy conversions raw).map fun _ => String.ofList raw := by
  rw [answerBy, String.toList_ofList]

variable {kind : Correction} {allowed : List Correction} {canonical : Option (List Char)} {refusal : Refusal}

theorem Converges.skip (h : Converges conversions raw allowed canonical) :
    Converges conversions raw (kind :: allowed) canonical := by
  obtain ⟨kinds, answer, hresubmits, hkinds, hconcludes⟩ := h
  exact ⟨kinds, answer, hresubmits, hkinds.cons kind, hconcludes⟩

theorem Converges.correct {expected : List Char} (hcheck : checkBy conversions raw = .error refusal)
    (hkind : correction? (.error refusal) = some (kind, String.ofList expected))
    (h : Converges conversions expected allowed canonical) :
    Converges conversions raw (kind :: allowed) canonical := by
  obtain ⟨kinds, answer, hresubmits, hkinds, hconcludes⟩ := h
  refine ⟨kind :: kinds, answer, .corrected ?_ hresubmits, hkinds.cons_cons kind, hconcludes⟩
  rw [answerBy_ofList, hcheck]
  exact hkind

theorem converges_of_invalid (hcheck : checkBy conversions raw = .error .invalidHostName) :
    Converges conversions raw allowed none := by
  have hanswer : answerBy conversions (String.ofList raw) = .error .invalidHostName := by
    rw [answerBy_ofList, hcheck]
    rfl
  refine ⟨[], _, .settled ?_, List.nil_sublist _, ?_⟩
  · rw [hanswer]
    rfl
  · rw [hanswer]
    exact .hopeless

/-- A text that is its own canonical form is not corrected. -/
theorem converges_of_normal (h : Normal conversions raw) : Converges conversions raw [] (some raw) := by
  have hanswer := answerBy_ofList conversions raw
  rw [checkBy_of_normal h] at hanswer
  refine ⟨[], _, .settled ?_, List.nil_sublist _, ?_⟩
  · rw [hanswer]
    split
    · rfl
    · split <;> rfl
  · rw [hanswer]
    split
    · exact .tooLong
    · split
      · next hlong =>
          obtain ⟨label, hlabel, hlong⟩ := hlong
          exact .longLabel hlabel hlong
      · exact .accepted

theorem Settles.converted (hascii : Settles conversions.ascii?) (hlower : IsLowering conversions.lower)
    (h : conversions.toAscii? raw = some ascii) : Converted conversions ascii := by
  obtain ⟨hsome, hwell⟩ := toAscii?_eq_some_iff.1 h
  exact ⟨⟨hwell, hlower.lower_eq_self (hascii.ascii hsome) (hascii.uncapped hsome)⟩, hascii.fixed hsome⟩

theorem WellFormed.dropEmptyLabels (h : WellFormed raw) (hne : dropEmptyLabels raw ≠ []) :
    WellFormed (dropEmptyLabels raw) := by
  refine ⟨hne, fun c hc => ?_, fun label hlabel => ?_⟩
  · rcases mem_of_mem_dropEmptyLabels hc with rfl | hc
    · decide
    · exact h.permitted c hc
  · rw [splitAt_dropEmptyLabels hne] at hlabel
    exact h.edges label (mem_properLabels.1 hlabel).1

/-- An ASCII form without its empty labels passes every check that does not count. -/
theorem Settles.normal (hascii : Settles conversions.ascii?) (hlower : IsLowering conversions.lower)
    (h : Converted conversions raw) (hne : dropEmptyLabels raw ≠ []) : Normal conversions (dropEmptyLabels raw) := by
  have hproper := hascii.proper h.ascii_eq
  exact ⟨⟨⟨h.toWellFormed.dropEmptyLabels hne,
    hlower.lower_eq_self (hascii.ascii hproper) (hascii.uncapped hproper)⟩, hproper⟩,
    dropEmptyLabels_dropEmptyLabels hne⟩

theorem converges_of_converted (hascii : Settles conversions.ascii?) (hlower : IsLowering conversions.lower)
    (h : Converted conversions raw) : Converges conversions raw [.normalized]
      (if dropEmptyLabels raw = [] then none else some (dropEmptyLabels raw)) := by
  by_cases hnil : dropEmptyLabels raw = []
  · rw [if_pos hnil]
    exact converges_of_invalid (checkBy_of_dropEmptyLabels_eq_nil h hnil)
  · rw [if_neg hnil]
    have hnormal := converges_of_normal (hascii.normal hlower h hnil)
    by_cases hproper : dropEmptyLabels raw = raw
    · rw [hproper] at hnormal ⊢
      exact hnormal.skip
    · exact hnormal.correct (checkBy_of_dropEmptyLabels_ne h hnil hproper) rfl

theorem converges_of_lowered (hascii : Settles conversions.ascii?) (hlower : IsLowering conversions.lower)
    (h : Lowered conversions raw) :
    Converges conversions raw [.punyCoded, .normalized] (canonicalFormBy conversions raw) := by
  cases hsome : conversions.toAscii? raw with
  | none =>
      rw [canonicalFormBy_of_toAscii?_eq_none h.toWellFormed (by rw [h.lower_eq, hsome])]
      exact converges_of_invalid (checkBy_of_toAscii?_eq_none h hsome)
  | some ascii =>
      have hconverted := converges_of_converted hascii hlower (hascii.converted hlower hsome)
      rw [canonicalFormBy_of_toAscii?_eq_some h.toWellFormed (by rw [h.lower_eq, hsome])]
      by_cases hsame : ascii = raw
      · subst hsame
        exact hconverted.skip
      · exact hconverted.correct (checkBy_of_ascii_ne h hsome hsame) rfl

/-- A text and its lower-case form have the same canonical form. -/
theorem canonicalFormBy_lower (hlower : IsLowering conversions.lower) (h : WellFormed raw) :
    canonicalFormBy conversions (conversions.lower raw) = canonicalFormBy conversions raw := by
  simp only [canonicalFormBy, isWellFormed_iff.2 h, isWellFormed_iff.2 (h.lower hlower), hlower.idempotent]

theorem converges (hascii : Settles conversions.ascii?) (hlower : IsLowering conversions.lower) (raw : List Char) :
    Converges conversions raw [.lowerCase, .punyCoded, .normalized] (canonicalFormBy conversions raw) := by
  by_cases hwell : WellFormed raw
  · have hlowered := converges_of_lowered hascii hlower ⟨hwell.lower hlower, hlower.idempotent raw⟩
    rw [canonicalFormBy_lower hlower hwell] at hlowered
    by_cases hsame : conversions.lower raw = raw
    · rw [hsame] at hlowered
      exact hlowered.skip
    · exact hlowered.correct (checkBy_of_lower_ne hwell hsame) rfl
  · rw [canonicalFormBy_of_not_wellFormed hwell]
    exact converges_of_invalid (checkBy_of_not_wellFormed hwell)

end Resubmission

/-- Resubmitting what is expected comes to an end after at most one correction of each kind, in the order of the checks.
What is accepted then is the canonical form; without one the text is invalid, and with one it is accepted unless the
form or a label of it is too long. This holds by whatever conversions keep their laws. -/
theorem resubmission_settles {lower : List Char → List Char} {ascii? : List Char → Option (List Char)}
    (hlower : IsLowering lower) (hascii : Settles ascii?) (raw : String) :
    (∃ kinds answer, Resubmits ⟨lower, ascii?⟩ raw kinds answer) ∧
    ∀ kinds answer, Resubmits ⟨lower, ascii?⟩ raw kinds answer →
      kinds.Sublist [.lowerCase, .punyCoded, .normalized] ∧ kinds.length ≤ 3 ∧
      (∀ name, answer = .ok name → canonicalFormBy ⟨lower, ascii?⟩ raw.toList = some name.toList) ∧
      Concludes (canonicalFormBy ⟨lower, ascii?⟩ raw.toList) answer := by
  have hconverges : Converges ⟨lower, ascii?⟩ raw.toList _ _ := converges hascii hlower raw.toList
  obtain ⟨kinds, answer, hresubmits, hkinds, hconcludes⟩ := hconverges
  rw [String.ofList_toList] at hresubmits
  refine ⟨⟨kinds, answer, hresubmits⟩, fun kinds' answer' hresubmits' => ?_⟩
  obtain ⟨rfl, rfl⟩ := hresubmits.unique hresubmits'
  refine ⟨hkinds, hkinds.length_le, fun name hname => ?_, hconcludes⟩
  subst hname
  generalize canonicalFormBy ⟨lower, ascii?⟩ raw.toList = canonical at hconcludes ⊢
  cases hconcludes
  rw [String.toList_ofList]

/-- The conversion to ASCII, of texts that it settles. -/
def settledAscii? (raw : List Char) : Option (List Char) :=
  (Idna.toAscii raw).filter fun ascii => decide (Uncapped ascii ∧ Idna.toAscii ascii = some ascii ∧
    Idna.toAscii (dropEmptyLabels ascii) = some (dropEmptyLabels ascii))

theorem settledAscii?_eq_some_iff {raw ascii : List Char} : settledAscii? raw = some ascii ↔
    Idna.toAscii raw = some ascii ∧ Uncapped ascii ∧ Idna.toAscii ascii = some ascii ∧
      Idna.toAscii (dropEmptyLabels ascii) = some (dropEmptyLabels ascii) := by
  rw [settledAscii?, Option.filter_eq_some_iff, decide_eq_true_iff]

theorem settles_settledAscii? : Settles settledAscii? := by
  have hmade {s t} (h : settledAscii? s = some t) := settledAscii?_eq_some_iff.1 h
  refine ⟨fun h => Idna.ascii_of_toAscii (hmade h).1, fun h => (hmade h).2.1, fun h => ?_, fun {s t} h => ?_⟩
  · obtain ⟨-, hupper, hfixed, hproper⟩ := hmade h
    exact settledAscii?_eq_some_iff.2 ⟨hfixed, hupper, hfixed, hproper⟩
  · obtain ⟨-, hupper, hfixed, hproper⟩ := hmade h
    have htwice : dropEmptyLabels (dropEmptyLabels t) = dropEmptyLabels t := by
      by_cases hnil : dropEmptyLabels t = []
      · rw [hnil]
        rfl
      · exact dropEmptyLabels_dropEmptyLabels hnil
    refine settledAscii?_eq_some_iff.2 ⟨hproper, fun c hc => ?_, hproper, by rw [htwice, hproper]⟩
    rcases mem_of_mem_dropEmptyLabels hc with rfl | hc
    · decide
    · exact hupper c hc

/-- Every correction is asked for once, and the canonical form is reached. -/
theorem resubmission_settles_crowded :
    IsLowering lowercase ∧ Settles settledAscii? ∧
    Resubmits ⟨lowercase, settledAscii?⟩ "NS1.Bücher..example" [.lowerCase, .punyCoded, .normalized]
      (.ok "ns1.xn--bcher-kva.example") ∧
    canonicalFormBy ⟨lowercase, settledAscii?⟩ "NS1.Bücher..example".toList =
      some "ns1.xn--bcher-kva.example".toList := by
  have hcase : correction? (answerBy ⟨lowercase, settledAscii?⟩ "NS1.Bücher..example") =
      some (.lowerCase, "ns1.bücher..example") := by
    decide +kernel
  have hcode : correction? (answerBy ⟨lowercase, settledAscii?⟩ "ns1.bücher..example") =
      some (.punyCoded, "ns1.xn--bcher-kva..example") := by
    decide +kernel
  have hlabels : correction? (answerBy ⟨lowercase, settledAscii?⟩ "ns1.xn--bcher-kva..example") =
      some (.normalized, "ns1.xn--bcher-kva.example") := by
    decide +kernel
  have hanswer : answerBy ⟨lowercase, settledAscii?⟩ "ns1.xn--bcher-kva.example" =
      .ok "ns1.xn--bcher-kva.example" := by
    decide +kernel
  have hsettled : Resubmits ⟨lowercase, settledAscii?⟩ "ns1.xn--bcher-kva.example" []
      (.ok "ns1.xn--bcher-kva.example") := by
    rw [← hanswer]
    exact .settled (by rw [hanswer]; rfl)
  have hresubmits : Resubmits ⟨lowercase, settledAscii?⟩ "NS1.Bücher..example" [.lowerCase, .punyCoded, .normalized]
      (.ok "ns1.xn--bcher-kva.example") :=
    .corrected hcase (.corrected hcode (.corrected hlabels hsettled))
  obtain ⟨-, hall⟩ := resubmission_settles isLowering_lowercase settles_settledAscii? "NS1.Bücher..example"
  obtain ⟨-, -, hform, -⟩ := hall _ _ hresubmits
  exact ⟨isLowering_lowercase, settles_settledAscii?, hresubmits, hform _ rfl⟩

end Bailiwick.HostName
