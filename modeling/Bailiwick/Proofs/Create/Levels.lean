import Bailiwick.Proofs.Create.Outcome
import Bailiwick.Proofs.PublicSuffix.Prevailing

/-!
How many levels a name stands below what it is placed by. The zone scan, the public suffix and the depth rule count
labels each in its own way; they all count labels of one name from the right, and so the domain above a host that is
deep enough stands right between the host and its zone.
-/

namespace Bailiwick

namespace HostName

variable {name : HostName} {count : Nat} {s : String}

/-- A name ends in the labels of a text and has at least so many labels in front of them. -/
def IsBelow (count : Nat) (name : HostName) (s : String) : Prop :=
  ∃ front, count ≤ front.length ∧ name.labels = front ++ labelsOf s

theorem isBelow_iff : name.IsBelow count s ↔ labelsOf s <:+ name.labels ∧ countLabels s + count ≤ name.labelCount := by
  rw [← length_labels, ← length_labelsOf]
  constructor
  · rintro ⟨front, hle, hlabels⟩
    refine ⟨⟨front, hlabels.symm⟩, ?_⟩
    rw [hlabels, List.length_append]
    omega
  · rintro ⟨⟨front, hlabels⟩, hle⟩
    refine ⟨front, ?_, hlabels.symm⟩
    rw [← hlabels, List.length_append] at hle
    omega

/-- The proper suffixes of a name are what it is a level below. -/
theorem mem_properSuffixes_iff_isBelow : s ∈ name.properSuffixes ↔ name.IsBelow 1 s := by
  obtain ⟨first, rest, hlabels⟩ := List.exists_cons_of_ne_nil (labelsOf_ne_nil name.text)
  rw [mem_properSuffixes_iff, IsBelow, labels, hlabels, List.tail_cons]
  constructor
  · rintro ⟨front, hrest⟩
    exact ⟨first :: front, Nat.le_add_left 1 _, by rw [List.cons_append, hrest]⟩
  · rintro ⟨front, hpos, hfront⟩
    obtain ⟨label, front, rfl⟩ := List.exists_cons_of_length_pos hpos
    exact ⟨front, (List.cons.inj hfront).2.symm⟩

theorem checkDepth_eq_ok_iff {publicSuffix zone : Option String} : name.checkDepth publicSuffix zone = .ok () ↔
    3 ≤ name.labelCount ∧ (∀ suffix, publicSuffix = some suffix → countLabels suffix + 2 ≤ name.labelCount) ∧
      ∀ suffix, zone = some suffix → countLabels suffix + 2 ≤ name.labelCount := by
  have hcount (hthree : 3 ≤ name.labelCount) (s : Option String) : (s.map countLabels).getD 0 + 2 ≤ name.labelCount ↔
      ∀ suffix, s = some suffix → countLabels suffix + 2 ≤ name.labelCount := by
    cases s with
    | none => exact ⟨fun _ _ hsame => (by cases hsame), fun _ => Nat.le_of_succ_le hthree⟩
    | some suffix => exact ⟨fun hle _ hsame => Option.some.inj hsame ▸ hle, fun h => h suffix rfl⟩
  calc name.checkDepth publicSuffix zone = .ok ()
    _ ↔ ¬ name.labelCount < effectiveSuffixLabels publicSuffix zone + minLabelsBelowSuffix := by
        rw [checkDepth]
        split
        · next hshallow => exact ⟨fun hok => (by cases hok), fun h => absurd hshallow h⟩
        · next hdeep => exact ⟨fun _ => hdeep, fun _ => rfl⟩
    _ ↔ 3 ≤ name.labelCount ∧ (publicSuffix.map countLabels).getD 0 + 2 ≤ name.labelCount ∧
          (zone.map countLabels).getD 0 + 2 ≤ name.labelCount := by
        rw [effectiveSuffixLabels, minLabelsBelowSuffix]
        omega
    _ ↔ _ := and_congr_right fun hthree => and_congr (hcount hthree publicSuffix) (hcount hthree zone)

theorem labelsOf_append {label : String} (h : '.' ∉ label.toList) (s : String) :
    labelsOf (label ++ "." ++ s) = label :: labelsOf s := by
  have htext : (label ++ "." ++ s).toList = label.toList ++ '.' :: s.toList := by
    rw [String.toList_append, String.toList_append, List.append_assoc]
    rfl
  rw [labelsOf, htext, Text.splitAt_append_cons h, List.map_cons, String.ofList_toList, labelsOf]

theorem dot_notMem_of_mem_labels {label : String} (h : label ∈ name.labels) : '.' ∉ label.toList := by
  obtain ⟨piece, hpiece, rfl⟩ := List.mem_map.1 h
  rw [String.toList_ofList]
  exact Text.not_mem_of_mem_splitAt hpiece

end HostName

namespace PublicSuffix.Rules

variable {rules : Rules} {name : HostName} {candidate suffix : String}

/-- What a rule set makes of a suffix is a suffix too: the same, or the one with a label less. -/
theorem suffix_of_verdict? (hcandidate : HostName.labelsOf candidate <:+ name.labels)
    (h : rules.verdict? candidate = some (some suffix)) : HostName.labelsOf suffix <:+ name.labels := by
  rw [verdict?] at h
  split at h
  · have hparent := List.IsSuffix.trans (List.tail_suffix _) hcandidate
    rw [Option.some.injEq, parent?_eq hcandidate, suffixOf?_eq_some_iff hparent] at h
    rwa [h]
  · have hsame : candidate = suffix := by
      split at h
      · exact Option.some.inj (Option.some.inj h)
      · split at h
        · exact Option.some.inj (Option.some.inj h)
        · cases h
    rwa [← hsame]

/-- Every public suffix is a suffix of the name that it is asked for. -/
theorem isBelow_longest (h : rules.longest name = some suffix) : name.IsBelow 0 suffix := by
  have hwalk (candidates : List String) (hsuffixes : ∀ s ∈ candidates, HostName.labelsOf s <:+ name.labels)
      (h : rules.firstVerdict candidates = some suffix) : HostName.labelsOf suffix <:+ name.labels := by
    induction candidates with
    | nil => cases h
    | cons candidate rest ih =>
        rw [firstVerdict] at h
        split at h
        · next answer hverdict =>
            subst h
            exact suffix_of_verdict? (hsuffixes candidate List.mem_cons_self) hverdict
        · exact ih (fun s hs => hsuffixes s (List.mem_cons_of_mem _ hs)) h
  obtain ⟨front, hlabels⟩ := hwalk _ (fun s => HostName.mem_suffixes_iff.1) h
  exact ⟨front, Nat.zero_le _, hlabels.symm⟩

end PublicSuffix.Rules

namespace Create

open HostName

variable {surroundings : Surroundings} {w : World} {trail : Trail}

/-- The scan finds the first managed zone, in one store that is in reach. -/
theorem run_firstManagedZone (hreach : surroundings.outage .zone = none) (suffixes : List String) :
    ((firstManagedZone suffixes).run.run trail).run surroundings w =
      (w, .ok (suffixes.find? w.store.isManaged), trail) := by
  induction suffixes with
  | nil => rfl
  | cons zone shorter ih =>
      change Work.run surroundings w (Work.step (.isManaged zone) _) = _
      rw [Work.run, World.perform, World.reach, hreach]
      cases hmanaged : w.store.isManaged zone with
      | true =>
          rw [List.find?_cons_of_pos hmanaged]
          rfl
      | false =>
          rw [List.find?_cons_of_neg (by rw [hmanaged]; exact Bool.false_ne_true), ← ih]
          rfl

/-- A domain that has one label more than a zone and is a level above a host. -/
structure StandsBetween (name : HostName) (zone domainName : String) : Prop where
  count_eq : countLabels domainName = countLabels zone + 1
  ends : ∃ label ∈ name.labels, domainName = label ++ "." ++ zone
  below : name.IsBelow 1 domainName
  ne_text : domainName ≠ name.text
  ne_zone : domainName ≠ zone

/-- Under a zone that is two levels above a host there is room for its domain. -/
theorem standsBetween_superordinateName {name : HostName} {zone : String} (h : name.IsBelow 2 zone) :
    StandsBetween name zone (superordinateName name zone) := by
  obtain ⟨front, htwo, hlabels⟩ := h
  obtain rfl | ⟨front, label, rfl⟩ := List.eq_nil_or_concat front
  · cases htwo
  · rw [List.concat_eq_append, List.append_assoc, List.singleton_append] at hlabels
    rw [List.concat_eq_append, List.length_append, List.length_singleton] at htwo
    have hmem : label ∈ name.labels := by
      rw [hlabels]
      exact List.mem_append_right front List.mem_cons_self
    have hdomain : labelsOf (superordinateName name zone) = label :: labelsOf zone := by
      rw [superordinateName, ← length_labelsOf, ← List.length_cons (a := label)]
      exact labelsOf_suffix_length ⟨front, hlabels.symm⟩ (List.cons_ne_nil _ _)
    have hcount : countLabels (superordinateName name zone) = countLabels zone + 1 := by
      rw [← length_labelsOf, hdomain, List.length_cons, length_labelsOf]
    have hlength : name.labelCount = front.length + (countLabels zone + 1) := by
      rw [← length_labels, hlabels, List.length_append, List.length_cons, length_labelsOf]
    refine ⟨hcount, ⟨label, hmem, ?_⟩, ⟨front, by omega, by rw [hdomain, hlabels]⟩, fun hname => ?_, fun hzone => ?_⟩
    · exact labelsOf_injective (hdomain.trans (labelsOf_append (dot_notMem_of_mem_labels hmem) zone).symm)
    · rw [hname, ← labelCount] at hcount
      omega
    · rw [hzone] at hcount
      omega

/-- A name is found to be under the nearest of the managed zones that it is a level below, and its public suffix is one
of its suffixes. It is deep enough exactly if it has three labels in all and two in front of either suffix; and then the
domain that is looked up for the zone stands between the zone and the host. -/
theorem levels_cohere (hreach : surroundings.outage .zone = none) (w : World) (trail : Trail)
    (rules : PublicSuffix.Rules) (name : HostName) :
    ∃ zone, ((longestManagedZone name).run.run trail).run surroundings w = (w, .ok zone, trail) ∧
      (NearestZone w.store name zone ∧ ∀ s, s ∈ name.properSuffixes ↔ name.IsBelow 1 s) ∧
      (∀ suffix, rules.longest name = some suffix → name.IsBelow 0 suffix) ∧
      (name.checkDepth (rules.longest name) zone = .ok () ↔ 3 ≤ name.labelCount ∧
        (∀ suffix, rules.longest name = some suffix → name.IsBelow 2 suffix) ∧
        ∀ suffix, zone = some suffix → name.IsBelow 2 suffix) ∧
      ∀ suffix, zone = some suffix → name.checkDepth (rules.longest name) zone = .ok () →
        (∀ now, ∃ next, (classify name zone now).run.run trail =
          .step (.findDomain (superordinateName name suffix) now) next) ∧
        StandsBetween name suffix (superordinateName name suffix) := by
  have hpublic (suffix : String) (h : rules.longest name = some suffix) : labelsOf suffix <:+ name.labels :=
    (isBelow_iff.1 (PublicSuffix.Rules.isBelow_longest h)).1
  have hmanaged (suffix : String) (h : w.store.zoneOf name = some suffix) : labelsOf suffix <:+ name.labels :=
    (isBelow_iff.1 (mem_properSuffixes_iff_isBelow.1 (List.mem_of_find?_eq_some h))).1
  have hdeep : name.checkDepth (rules.longest name) (w.store.zoneOf name) = .ok () ↔ 3 ≤ name.labelCount ∧
      (∀ suffix, rules.longest name = some suffix → name.IsBelow 2 suffix) ∧
      ∀ suffix, w.store.zoneOf name = some suffix → name.IsBelow 2 suffix := by
    rw [checkDepth_eq_ok_iff]
    refine and_congr_right fun _ => and_congr ?_ ?_
    · exact forall₂_congr fun suffix h => by rw [isBelow_iff, and_iff_right (hpublic suffix h)]
    · exact forall₂_congr fun suffix h => by rw [isBelow_iff, and_iff_right (hmanaged suffix h)]
  refine ⟨w.store.zoneOf name, run_firstManagedZone hreach _,
    ⟨nearestZone_zoneOf w.store name, fun s => mem_properSuffixes_iff_isBelow⟩,
    fun suffix => PublicSuffix.Rules.isBelow_longest, hdeep, fun suffix hsuffix hok => ⟨fun now => ?_, ?_⟩⟩
  · rw [hsuffix]
    exact ⟨_, rfl⟩
  · obtain ⟨-, -, hbelow⟩ := hdeep.1 hok
    exact standsBetween_superordinateName (hbelow suffix hsuffix)

def deep : HostName := ⟨"ns1.foo.bar.tld", by rfl⟩

/-- Of two zones one above the other the nearer one counts, and the host belongs to the domain below it. -/
theorem levels_cohere_nested :
    Surroundings.calm.outage .zone = none ∧
      let w := (World.edit {} (.addZone "tld")).edit (.addZone "bar.tld")
      ((longestManagedZone deep).run.run (.start .received)).run .calm w =
        (w, .ok (some "bar.tld"), .start .received) ∧ StandsBetween deep "bar.tld" "foo.bar.tld" := by
  have hreach : Surroundings.calm.outage .zone = none := rfl
  refine ⟨hreach, ?_⟩
  intro w
  have hnearer : ((longestManagedZone deep).run.run (.start .received)).run .calm w =
      (w, .ok (some "bar.tld"), .start .received) := by rfl
  have hpublic : (PublicSuffix.Rules.parse "*.tld").longest deep = some "bar.tld" := by decide +kernel
  have hdeep : deep.checkDepth ((PublicSuffix.Rules.parse "*.tld").longest deep) (some "bar.tld") = .ok () := by
    rw [hpublic]
    rfl
  obtain ⟨zone, hscan, -, -, -, hbetween⟩ := levels_cohere hreach w (.start .received) (.parse "*.tld") deep
  obtain ⟨hzone, -⟩ := Prod.mk.inj (Prod.mk.inj (hscan.symm.trans hnearer)).2
  obtain rfl := Except.ok.inj hzone
  exact ⟨hnearer, (hbetween "bar.tld" rfl hdeep).2⟩

end Create

end Bailiwick
