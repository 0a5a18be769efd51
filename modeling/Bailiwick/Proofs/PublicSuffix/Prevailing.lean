import Bailiwick.Proofs.HostName.Suffixes
import Bailiwick.PublicSuffix

/-!
Which rule decides the public suffix of a name. A rule matches a name by its labels. The algorithm of the list lets the
longest exception that matches prevail over every other rule, and else the rule with the most labels. The walk from the
whole name towards its last label lets the rule with the most labels decide, whatever its kind. The two differ exactly
where some rule covers more labels than every exception that matches.
-/

namespace Bailiwick.PublicSuffix

open HostName

/-- A rule: its kind and the name it is about. -/
abbrev Rule := RuleKind × String

/-- The rules of a text, without those that are skipped. -/
def rulesOf (text : String) : List Rule := (words text).filterMap readRule?

/-- The rightmost labels of a name that a rule matches: those of the rule, and one more in front of them where the rule
begins with `*.`. -/
structure Rule.Covers (rule : Rule) (name : HostName) (labels : List String) : Prop where
  suffix : labels <:+ name.labels
  pattern : match rule.1 with
    | .wildcard => ∃ label, labels = label :: labelsOf rule.2
    | _ => labels = labelsOf rule.2

/-- The suffix of a name that is made of the given labels, if there are any. -/
def suffixOf? (name : HostName) (labels : List String) : Option String :=
  if labels = [] then none else some (name.suffix labels.length)

/-- What the algorithm of the list answers for a name. -/
inductive Prevails (rules : List Rule) (name : HostName) : Option String → Prop where
  /-- The longest exception that matches prevails over every other rule and loses its leftmost label. -/
  | exempt {rule : Rule} {labels : List String} (hrule : rule ∈ rules) (hkind : rule.1 = .exception)
      (hcovers : rule.Covers name labels)
      (hlongest : ∀ other ∈ rules, other.1 = .exception → ∀ others, other.Covers name others →
        others.length ≤ labels.length) : Prevails rules name (suffixOf? name labels.tail)
  /-- Where no exception matches, the rule with the most labels prevails. -/
  | covered {rule : Rule} {labels : List String} (hrule : rule ∈ rules) (hcovers : rule.Covers name labels)
      (hnone : ∀ other ∈ rules, other.1 = .exception → ∀ others, ¬ other.Covers name others)
      (hlongest : ∀ other ∈ rules, ∀ others, other.Covers name others → others.length ≤ labels.length) :
      Prevails rules name (suffixOf? name labels)
  | unlisted (hnone : ∀ rule ∈ rules, ∀ labels, ¬ rule.Covers name labels) : Prevails rules name none

/-- Some exceptions match a name, and another rule covers more of its labels than each of them does. -/
def Shadowed (rules : List Rule) (name : HostName) : Prop :=
  (∃ rule ∈ rules, rule.1 = .exception ∧ ∃ labels, rule.Covers name labels) ∧
    ∃ rule ∈ rules, ∃ labels, rule.Covers name labels ∧
      ∀ other ∈ rules, other.1 = .exception → ∀ others, other.Covers name others → others.length < labels.length

/-- What the walk from the whole name towards its last label answers. -/
inductive Foremost (rules : List Rule) (name : HostName) : Option String → Prop where
  /-- An exception with the most labels of all rules loses its leftmost label. -/
  | exempt {rule : Rule} {labels : List String} (hrule : rule ∈ rules) (hkind : rule.1 = .exception)
      (hcovers : rule.Covers name labels)
      (hlongest : ∀ other ∈ rules, ∀ others, other.Covers name others → others.length ≤ labels.length) :
      Foremost rules name (suffixOf? name labels.tail)
  /-- A rule covers more labels than every exception and at least as many as every other rule. -/
  | covered {rule : Rule} {labels : List String} (hrule : rule ∈ rules) (hcovers : rule.Covers name labels)
      (hshorter : ∀ other ∈ rules, other.1 = .exception → ∀ others, other.Covers name others →
        others.length < labels.length)
      (hlongest : ∀ other ∈ rules, ∀ others, other.Covers name others → others.length ≤ labels.length) :
      Foremost rules name (suffixOf? name labels)
  | unlisted (hnone : ∀ rule ∈ rules, ∀ labels, ¬ rule.Covers name labels) : Foremost rules name none

variable {rules : List Rule} {name : HostName} {labels others : List String} {answer : Option String}

theorem Rule.Covers.ne_nil {rule : Rule} (h : rule.Covers name labels) : labels ≠ [] := by
  have hpattern := h.pattern
  split at hpattern
  · obtain ⟨label, rfl⟩ := hpattern
    exact List.cons_ne_nil _ _
  · rw [hpattern]
    exact labelsOf_ne_nil rule.2

theorem suffixOf?_of_ne_nil (h : labels ≠ []) : suffixOf? name labels = some (name.suffix labels.length) := if_neg h

/-- Labels of a name from the right are told apart by the suffixes that they make. -/
theorem suffixOf?_injective (hlabels : labels <:+ name.labels) (hothers : others <:+ name.labels)
    (h : suffixOf? name labels = suffixOf? name others) : labels = others := by
  by_cases hnil : labels = []
  · by_cases hothersnil : others = []
    · rw [hnil, hothersnil]
    · rw [hnil, suffixOf?_of_ne_nil hothersnil] at h
      cases h
  · by_cases hothersnil : others = []
    · rw [hothersnil, suffixOf?_of_ne_nil hnil] at h
      cases h
    · rw [suffixOf?_of_ne_nil hnil, suffixOf?_of_ne_nil hothersnil] at h
      rw [← labelsOf_suffix_length hlabels hnil, Option.some.inj h, labelsOf_suffix_length hothers hothersnil]

theorem suffixOf?_eq_some_iff {s : String} (h : labels <:+ name.labels) :
    suffixOf? name labels = some s ↔ labelsOf s = labels := by
  constructor
  · intro hs
    have hne : labels ≠ [] := by
      rintro rfl
      cases hs
    rw [suffixOf?_of_ne_nil hne] at hs
    rw [← Option.some.inj hs, labelsOf_suffix_length h hne]
  · rintro rfl
    rw [suffixOf?_of_ne_nil (labelsOf_ne_nil s), ← eq_suffix_of_labelsOf h]

theorem eq_of_length_eq (hlabels : labels <:+ name.labels) (hothers : others <:+ name.labels)
    (h : labels.length = others.length) : labels = others :=
  (List.suffix_of_suffix_length_le hlabels hothers (Nat.le_of_eq h)).eq_of_length h

/-- The algorithm has one answer. -/
theorem Prevails.unique {answer' : Option String} (h : Prevails rules name answer)
    (h' : Prevails rules name answer') : answer = answer' := by
  cases h with
  | exempt hrule hkind hcovers hlongest =>
      cases h' with
      | exempt hrule' hkind' hcovers' hlongest' =>
          have hlength := Nat.le_antisymm (hlongest' _ hrule hkind _ hcovers) (hlongest _ hrule' hkind' _ hcovers')
          rw [eq_of_length_eq hcovers.suffix hcovers'.suffix hlength]
      | covered _ _ hnone => exact absurd hcovers (hnone _ hrule hkind _)
      | unlisted hnone => exact absurd hcovers (hnone _ hrule _)
  | covered hrule hcovers hnone hlongest =>
      cases h' with
      | exempt hrule' hkind' hcovers' => exact absurd hcovers' (hnone _ hrule' hkind' _)
      | covered hrule' hcovers' _ hlongest' =>
          have hlength := Nat.le_antisymm (hlongest' _ hrule _ hcovers) (hlongest _ hrule' _ hcovers')
          rw [eq_of_length_eq hcovers.suffix hcovers'.suffix hlength]
      | unlisted hnone' => exact absurd hcovers (hnone' _ hrule _)
  | unlisted hnone =>
      cases h' with
      | exempt hrule' _ hcovers' => exact absurd hcovers' (hnone _ hrule' _)
      | covered hrule' hcovers' => exact absurd hcovers' (hnone _ hrule' _)
      | unlisted => rfl

/-- The walk answers what the algorithm does unless exceptions are shadowed. -/
theorem Foremost.prevails_iff (h : Foremost rules name answer) :
    Prevails rules name answer ↔ ¬ Shadowed rules name := by
  constructor
  · rintro hprevails ⟨⟨exception, hmem, hkind, exempted, hexempted⟩, rule, hrule, shadowing, hshadows, hshorter⟩
    cases h with
    | exempt hrule' hkind' hcovers' hlongest' =>
        exact Nat.not_lt.2 (hlongest' _ hrule _ hshadows) (hshorter _ hrule' hkind' _ hcovers')
    | unlisted hnone => exact hnone _ hrule _ hshadows
    | @covered _ labels hrule' hcovers' _ hlongest' =>
        generalize hsame : suffixOf? name labels = answer at hprevails
        cases hprevails with
        | covered _ _ hnone => exact hnone _ hmem hkind _ hexempted
        | unlisted hnone => exact hnone _ hmem _ hexempted
        | @exempt _ cut hcut hcutkind hcutcovers =>
            have htail := suffixOf?_injective hcovers'.suffix ((List.tail_suffix cut).trans hcutcovers.suffix) hsame
            have hless := hshorter _ hcut hcutkind _ hcutcovers
            have hmost := hlongest' _ hrule _ hshadows
            have hlength := List.length_tail (l := cut)
            rw [← htail] at hlength
            omega
  · intro hplain
    cases h with
    | exempt hrule hkind hcovers hlongest =>
        exact .exempt hrule hkind hcovers fun other hother _ => hlongest other hother
    | covered hrule hcovers hshorter hlongest =>
        refine .covered hrule hcovers (fun other hother hkind others hmatch => ?_) hlongest
        exact hplain ⟨⟨other, hother, hkind, others, hmatch⟩, _, hrule, _, hcovers, hshorter⟩
    | unlisted hnone => exact .unlisted hnone

section Walk

variable {text s : String} {kind : RuleKind}

/-- The names that the rules of a kind are about. -/
def Rules.names (rules : Rules) : RuleKind → SortedSet String
  | .exact => rules.exact
  | .wildcard => rules.wildcard
  | .exception => rules.exception

theorem mem_names_add {rules : Rules} {rule : Rule} :
    s ∈ (rules.add rule.1 rule.2).names kind ↔ (kind, s) = rule ∨ s ∈ rules.names kind := by
  obtain ⟨kind', s'⟩ := rule
  rw [Prod.mk.injEq]
  cases kind <;> cases kind' <;> simp [Rules.add, Rules.names, SortedSet.mem_insert]

theorem mem_names_foldl {rules : Rules} {added : List Rule} :
    s ∈ (added.foldl (fun rules (kind, name) => rules.add kind name) rules).names kind ↔
      (kind, s) ∈ added ∨ s ∈ rules.names kind := by
  induction added generalizing rules with
  | nil => simp
  | cons rule added ih => rw [List.foldl_cons, ih, mem_names_add, List.mem_cons, or_left_comm, or_assoc]

/-- A rule set holds the rules of its text. -/
theorem mem_names_parse (kind : RuleKind) : s ∈ (Rules.parse text).names kind ↔ (kind, s) ∈ rulesOf text := by
  have hempty : s ∉ Rules.empty.names kind := by
    cases kind <;> exact List.not_mem_nil
  rw [Rules.parse, mem_names_foldl, or_iff_left hempty]
  rfl

/-- What follows the first dot of a suffix is the suffix with one label less. -/
theorem parent?_eq (hs : labelsOf s <:+ name.labels) : parent? s = suffixOf? name (labelsOf s).tail := by
  have hlength := length_tailsAtDots s.toList
  rw [parent?]
  cases htails : tailsAtDots s.toList with
  | nil =>
      rw [htails, List.length_nil, ← countLabels, ← length_labelsOf] at hlength
      rw [suffixOf?, if_pos (List.length_eq_zero_iff.1 (by rw [List.length_tail, ← hlength]))]
  | cons tail shorter =>
      have hlabels : labelsOf (String.ofList tail) = (labelsOf s).tail := by
        rw [labelsOf, String.toList_ofList, splitAt_of_tailsAtDots_eq_cons htails, List.map_tail, labelsOf]
      exact ((suffixOf?_eq_some_iff ((List.tail_suffix _).trans hs)).2 hlabels).symm

/-- What a rule set says about a suffix of a name: an exception that covers it comes before any other rule. -/
theorem verdict?_cases (text : String) (hs : labelsOf s <:+ name.labels) :
    (∃ rule ∈ rulesOf text, rule.1 = .exception ∧ rule.Covers name (labelsOf s) ∧
        (Rules.parse text).verdict? s = some (suffixOf? name (labelsOf s).tail)) ∨
      ((∀ rule ∈ rulesOf text, rule.1 = .exception → ¬ rule.Covers name (labelsOf s)) ∧
        ∃ rule ∈ rulesOf text, rule.Covers name (labelsOf s) ∧
          (Rules.parse text).verdict? s = some (suffixOf? name (labelsOf s))) ∨
      ((∀ rule ∈ rulesOf text, ¬ rule.Covers name (labelsOf s)) ∧ (Rules.parse text).verdict? s = none) := by
  have hexceptions : s ∈ (Rules.parse text).exception ↔ (.exception, s) ∈ rulesOf text :=
    mem_names_parse .exception
  have hexact : s ∈ (Rules.parse text).exact ↔ (.exact, s) ∈ rulesOf text := mem_names_parse .exact
  have hwildcard {parent : String} : parent ∈ (Rules.parse text).wildcard ↔ (.wildcard, parent) ∈ rulesOf text :=
    mem_names_parse .wildcard
  have hparent (parent : String) : parent? s = some parent ↔ labelsOf parent = (labelsOf s).tail := by
    rw [parent?_eq hs, suffixOf?_eq_some_iff ((List.tail_suffix _).trans hs)]
  have hwhole : suffixOf? name (labelsOf s) = some s := (suffixOf?_eq_some_iff hs).2 rfl
  rw [Rules.verdict?, ← parent?_eq hs, hwhole]
  by_cases hexception : s ∈ (Rules.parse text).exception
  · exact .inl ⟨(.exception, s), hexceptions.1 hexception, rfl, ⟨hs, rfl⟩, if_pos hexception⟩
  have hfree : ∀ rule ∈ rulesOf text, rule.1 = .exception → ¬ rule.Covers name (labelsOf s) := by
    rintro ⟨_, s'⟩ hrule rfl hcovers
    obtain rfl := labelsOf_injective hcovers.pattern
    exact hexception (hexceptions.2 hrule)
  rw [if_neg hexception]
  right
  by_cases hlisted : s ∈ (Rules.parse text).exact
  · exact .inl ⟨hfree, (.exact, s), hexact.1 hlisted, ⟨hs, rfl⟩, if_pos hlisted⟩
  rw [if_neg hlisted]
  by_cases hwild : (parent? s).any (· ∈ (Rules.parse text).wildcard) = true
  · rw [if_pos hwild]
    obtain ⟨parent, hsome, hmem⟩ := (Option.any_eq_true _ _).1 hwild
    obtain ⟨label, rest, hlabels⟩ := List.exists_cons_of_ne_nil (labelsOf_ne_nil s)
    have htail := (hparent parent).1 hsome
    refine .inl ⟨hfree, (.wildcard, parent), hwildcard.1 (of_decide_eq_true hmem), ⟨hs, label, ?_⟩, rfl⟩
    rw [htail, hlabels, List.tail_cons]
  · rw [if_neg hwild]
    refine .inr ⟨?_, rfl⟩
    rintro ⟨kind, s'⟩ hrule hcovers
    cases kind with
    | exception => exact hfree _ hrule rfl hcovers
    | exact =>
        obtain rfl := labelsOf_injective hcovers.pattern
        exact hlisted (hexact.2 hrule)
    | wildcard =>
        obtain ⟨label, hlabels⟩ := hcovers.pattern
        have hsome := (hparent s').2 (by rw [hlabels, List.tail_cons])
        exact hwild ((Option.any_eq_true _ _).2 ⟨s', hsome, decide_eq_true (hwildcard.2 hrule)⟩)

/-- A walk over suffixes that come with ever fewer labels, with all that a rule covers among them. -/
theorem foremost_firstVerdict {candidates : List String} (hsuffixes : ∀ s ∈ candidates, labelsOf s <:+ name.labels)
    (hsorted : candidates.Pairwise fun longer shorter => countLabels shorter < countLabels longer)
    (hall : ∀ rule ∈ rulesOf text, ∀ labels, rule.Covers name labels → ∃ s ∈ candidates, labelsOf s = labels) :
    Foremost (rulesOf text) name ((Rules.parse text).firstVerdict candidates) := by
  induction candidates with
  | nil =>
      refine .unlisted fun rule hrule labels hcovers => ?_
      obtain ⟨s, hs, -⟩ := hall rule hrule labels hcovers
      cases hs
  | cons s rest ih =>
      obtain ⟨hfirst, hrest⟩ := List.pairwise_cons.1 hsorted
      have hs := hsuffixes s List.mem_cons_self
      have hlongest : ∀ rule ∈ rulesOf text, ∀ labels, rule.Covers name labels →
          labels = labelsOf s ∨ labels.length < (labelsOf s).length := by
        intro rule hrule labels hcovers
        obtain ⟨t, ht, rfl⟩ := hall rule hrule labels hcovers
        rcases List.mem_cons.1 ht with rfl | ht
        · exact .inl rfl
        · exact .inr (by rw [length_labelsOf, length_labelsOf]; exact hfirst t ht)
      have hle : ∀ rule ∈ rulesOf text, ∀ labels, rule.Covers name labels →
          labels.length ≤ (labelsOf s).length := fun rule hrule labels hcovers =>
        (hlongest rule hrule labels hcovers).elim (fun h => Nat.le_of_eq (congrArg List.length h)) Nat.le_of_lt
      rw [Rules.firstVerdict]
      rcases verdict?_cases text hs with ⟨rule, hrule, hkind, hcovers, hverdict⟩ |
        ⟨hfree, rule, hrule, hcovers, hverdict⟩ | ⟨hnone, hverdict⟩
      · rw [hverdict]
        exact .exempt hrule hkind hcovers hle
      · rw [hverdict]
        refine .covered hrule hcovers (fun other hother hkind others hothers => ?_) hle
        rcases hlongest other hother others hothers with rfl | hless
        · exact absurd hothers (hfree other hother hkind)
        · exact hless
      · rw [hverdict]
        refine ih (fun t ht => hsuffixes t (List.mem_cons_of_mem _ ht)) hrest fun rule hrule labels hcovers => ?_
        obtain ⟨t, ht, rfl⟩ := hall rule hrule labels hcovers
        rcases List.mem_cons.1 ht with rfl | ht
        · exact absurd hcovers (hnone rule hrule)
        · exact ⟨t, ht, rfl⟩

theorem foremost_longest (text : String) (name : HostName) :
    Foremost (rulesOf text) name ((Rules.parse text).longest name) := by
  refine foremost_firstVerdict (fun s => mem_suffixes_iff.1) name.pairwise_suffixes ?_
  intro rule _ labels hcovers
  have hlabels := labelsOf_suffix_length hcovers.suffix hcovers.ne_nil
  exact ⟨name.suffix labels.length, mem_suffixes_iff.2 (hlabels.symm ▸ hcovers.suffix), hlabels⟩

end Walk

section Longest

/-- Of the label lists with some property, where their lengths are bounded, one is at least as long as all others. -/
theorem exists_longest {p : List String → Prop} {bound : Nat} (hbound : ∀ labels, p labels → labels.length ≤ bound)
    {labels : List String} (hlabels : p labels) : ∃ longest, p longest ∧ ∀ others, p others →
      others.length ≤ longest.length := by
  -- What is missing to the bound goes down with every longer list.
  induction hgap : bound - labels.length using Nat.strongRecOn generalizing labels with
  | _ gap ih =>
      by_cases hlonger : ∃ others, p others ∧ labels.length < others.length
      · obtain ⟨others, hothers, hlt⟩ := hlonger
        have hle := hbound others hothers
        exact ih (bound - others.length) (by omega) hothers rfl
      · exact ⟨labels, hlabels, fun others hothers => Nat.not_lt.1 fun hlt => hlonger ⟨others, hothers, hlt⟩⟩

theorem exists_longest_covered {p : Rule → Prop} {rule : Rule} (hrule : rule ∈ rules) (hp : p rule)
    (hcovers : rule.Covers name labels) : ∃ rule ∈ rules, p rule ∧ ∃ longest, rule.Covers name longest ∧
      ∀ other ∈ rules, p other → ∀ others, other.Covers name others → others.length ≤ longest.length := by
  obtain ⟨longest, ⟨chosen, hchosen, hpchosen, hlongest⟩, hmost⟩ := exists_longest
    (p := fun labels => ∃ rule ∈ rules, p rule ∧ rule.Covers name labels)
    (fun _ ⟨_, _, _, hcovers⟩ => hcovers.suffix.length_le) ⟨rule, hrule, hp, hcovers⟩
  exact ⟨chosen, hchosen, hpchosen, longest, hlongest, fun other hother hpother others hothers =>
    hmost others ⟨other, hother, hpother, hothers⟩⟩

/-- The algorithm has an answer for every name. -/
theorem exists_prevails (rules : List Rule) (name : HostName) : ∃ answer, Prevails rules name answer := by
  by_cases hexception : ∃ rule ∈ rules, rule.1 = .exception ∧ ∃ labels, rule.Covers name labels
  · obtain ⟨rule, hrule, hkind, labels, hcovers⟩ := hexception
    obtain ⟨chosen, hchosen, hkind, longest, hlongest, hmost⟩ :=
      exists_longest_covered (p := fun rule => rule.1 = .exception) hrule hkind hcovers
    exact ⟨_, .exempt hchosen hkind hlongest hmost⟩
  · have hnone : ∀ other ∈ rules, other.1 = .exception → ∀ others, ¬ other.Covers name others :=
      fun other hother hkind others hothers => hexception ⟨other, hother, hkind, others, hothers⟩
    by_cases hmatch : ∃ rule ∈ rules, ∃ labels, rule.Covers name labels
    · obtain ⟨rule, hrule, labels, hcovers⟩ := hmatch
      obtain ⟨chosen, hchosen, -, longest, hlongest, hmost⟩ :=
        exists_longest_covered (p := fun _ => True) hrule trivial hcovers
      exact ⟨_, .covered hchosen hlongest hnone fun other hother => hmost other hother trivial⟩
    · exact ⟨none, .unlisted fun rule hrule labels hcovers => hmatch ⟨rule, hrule, labels, hcovers⟩⟩

/-- The algorithm of the list has one answer for each name. The walk answers with the rule that covers the most labels,
which is the answer of the algorithm unless that rule shadows the exceptions that match. -/
theorem longest_prevails_iff (text : String) (name : HostName) :
    (∃ answer, Prevails (rulesOf text) name answer ∧ ∀ other, Prevails (rulesOf text) name other → other = answer) ∧
      Foremost (rulesOf text) name ((Rules.parse text).longest name) ∧
      (Prevails (rulesOf text) name ((Rules.parse text).longest name) ↔ ¬ Shadowed (rulesOf text) name) := by
  obtain ⟨answer, hanswer⟩ := exists_prevails (rulesOf text) name
  have hforemost := foremost_longest text name
  exact ⟨⟨answer, hanswer, fun _ h => h.unique hanswer⟩, hforemost, hforemost.prevails_iff⟩

/-- A wildcard with an exception, and an exact rule below the exception. -/
def nested : String := "*.ck\n!www.ck\nfoo.www.ck"

def shaded : HostName := ⟨"ns1.foo.www.ck", by rfl⟩

/-- An exact rule below an exception shadows it: by the exception the public suffix is `ck`, and the walk has stopped
before it comes there. -/
theorem longest_shadowed : Prevails (rulesOf nested) shaded (some "ck") ∧
    (Rules.parse nested).longest shaded = some "foo.www.ck" := by
  have hrules : rulesOf nested = [(.wildcard, "ck"), (.exception, "www.ck"), (.exact, "foo.www.ck")] := by
    decide +kernel
  have hcovers : Rule.Covers (.exception, "www.ck") shaded ["www", "ck"] :=
    ⟨⟨["ns1", "foo"], by decide +kernel⟩, by decide +kernel⟩
  have hanswer : suffixOf? shaded ["ck"] = some "ck" := by decide +kernel
  refine ⟨?_, by decide +kernel⟩
  rw [hrules, ← hanswer]
  refine .exempt (by decide) rfl hcovers fun other hother hkind others hothers => ?_
  obtain rfl : other = (.exception, "www.ck") := by
    simp only [List.mem_cons, List.not_mem_nil, or_false] at hother
    rcases hother with rfl | rfl | rfl
    · cases hkind
    · rfl
    · cases hkind
  rw [hothers.pattern]
  decide +kernel

end Longest

end Bailiwick.PublicSuffix
