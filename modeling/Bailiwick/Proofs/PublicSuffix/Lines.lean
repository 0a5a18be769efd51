import Bailiwick.Proofs.PublicSuffix.Prevailing
import Bailiwick.Proofs.SortedSet
import Mathlib.Data.Finset.Card
import Mathlib.Data.List.TakeWhile
import Mathlib.Logic.Relation

/-!
A text of suffix rules means the set of its rules. A line says at most one rule, by its first word; blank lines,
comments and lines whose rule has no ASCII form say none. So it does not matter in which order and how often lines
stand, what stands between them, or how they begin and end; and two texts with a line break between them mean the union
of what they mean.
-/

namespace Bailiwick.PublicSuffix

open Text

/-- The lines of a text; a carriage return in front of a line break is left at the end of the line. -/
def linesOf (text : String) : List (List Char) := splitAt '\n' text.toList

/-- The first word of a line: blanks may stand in front of it, and a blank ends it. -/
inductive Opens : List Char → List Char → Prop
  | intro {lead word rest : List Char} (hlead : ∀ c ∈ lead, isBlank c = true) (hne : word ≠ [])
      (hword : ∀ c ∈ word, isBlank c = false) (hrest : ∀ c ∈ rest.head?, isBlank c = true) :
      Opens (lead ++ word ++ rest) word

def IsComment (word : List Char) : Prop := ['/', '/'] <+: word

/-- How a rule of some kind is written for a name. -/
inductive Writes : List Char → RuleKind → List Char → Prop
  | exception (name : List Char) : Writes ('!' :: name) .exception name
  | wildcard (name : List Char) : Writes ('*' :: '.' :: name) .wildcard name
  | exact {name : List Char} (hexception : ¬ ['!'] <+: name) (hwildcard : ¬ ['*', '.'] <+: name) :
      Writes name .exact name

/-- The rule that a line says, with its name in ASCII. -/
inductive Says : List Char → Rule → Prop
  | intro {line word name ascii : List Char} {kind : RuleKind} (hword : Opens line word) (hcomment : ¬ IsComment word)
      (hwrites : Writes word kind name) (hascii : Idna.toAscii name = some ascii) (hne : ascii ≠ []) :
      Says line (kind, String.ofList ascii)

/-- A line that says no rule: blank, a comment, or a rule whose name has no ASCII form or an empty one. -/
inductive Idle (line : List Char) : Prop
  | blank (hblank : ∀ c ∈ line, isBlank c = true)
  | comment {word : List Char} (hword : Opens line word) (hcomment : IsComment word)
  | rejected {word name : List Char} {kind : RuleKind} (hword : Opens line word) (hcomment : ¬ IsComment word)
      (hwrites : Writes word kind name) (hascii : ∀ ascii, Idna.toAscii name = some ascii → ascii = [])

/-- Changes to lines that keep the rules which they say. -/
inductive Restates : List (List Char) → List (List Char) → Prop
  | permuted {lines others : List (List Char)} (h : lines.Perm others) : Restates lines others
  | repeated {line : List Char} {lines : List (List Char)} (h : line ∈ lines) : Restates lines (line :: lines)
  | idle {line : List Char} (h : Idle line) (lines : List (List Char)) : Restates lines (line :: lines)
  /-- Other blanks in front of the first word, and other text behind it. -/
  | reworded {line other word : List Char} (h : Opens line word) (hother : Opens other word)
      (lines : List (List Char)) : Restates (line :: lines) (other :: lines)
  | lineEnd (line : List Char) (lines : List (List Char)) : Restates (line :: lines) ((line ++ ['\r']) :: lines)

variable {line other word name : List Char} {kind : RuleKind} {rule : Rule}

theorem opens_iff : Opens line word ↔ firstWord line = word ∧ word ≠ [] := by
  constructor
  · rintro @⟨lead, word, rest, hlead, hne, hword, hrest⟩
    refine ⟨?_, hne⟩
    obtain ⟨c, later, rfl⟩ := List.exists_cons_of_ne_nil hne
    have hstart : trimStart (lead ++ (c :: later) ++ rest) = (c :: later) ++ rest := by
      rw [List.append_assoc, trimStart_append hlead, List.cons_append]
      exact trimStart_cons_of_not_blank (hword c List.mem_cons_self) _
    have hend : rest.takeWhile (fun c => !isBlank c) = [] := by
      cases rest with
      | nil => rfl
      | cons d rest => exact List.takeWhile_cons_of_neg (by rw [hrest d rfl]; exact Bool.false_ne_true)
    rw [firstWord, hstart, List.takeWhile_append_of_pos fun d hd => by rw [hword d hd]; rfl, hend, List.append_nil]
  · rintro ⟨rfl, hne⟩
    have hline : line = line.takeWhile isBlank ++ firstWord line ++ (trimStart line).dropWhile fun c => !isBlank c := by
      rw [List.append_assoc, firstWord, List.takeWhile_append_dropWhile, trimStart, List.takeWhile_append_dropWhile]
    have hrest : ∀ c ∈ ((trimStart line).dropWhile fun c => !isBlank c).head?, isBlank c = true := by
      intro c hc
      have hhead := List.head?_dropWhile_not (fun c => !isBlank c) (trimStart line)
      rw [Option.mem_def.1 hc] at hhead
      simpa using hhead
    have hopens : Opens (line.takeWhile isBlank ++ firstWord line ++ (trimStart line).dropWhile fun c => !isBlank c)
        (firstWord line) :=
      .intro (fun c => List.mem_takeWhile_imp) hne (fun c hc => by simpa using List.mem_takeWhile_imp hc) hrest
    rwa [← hline] at hopens

theorem wordOfLine?_eq_some_iff : wordOfLine? line = some word ↔ Opens line word ∧ ¬ IsComment word := by
  rw [opens_iff, wordOfLine?]
  constructor
  · intro h
    split at h
    · cases h
    · cases h
    · next hne hcomment =>
        obtain rfl := Option.some.inj h
        exact ⟨⟨rfl, hne⟩, fun ⟨rest, hrest⟩ => hcomment rest hrest.symm⟩
  · rintro ⟨⟨rfl, hne⟩, hcomment⟩
    split
    · next hnil => exact absurd hnil hne
    · next rest hrest => exact absurd ⟨rest, hrest.symm⟩ hcomment
    · rfl

theorem splitRule_eq_iff : splitRule word = (kind, name) ↔ Writes word kind name := by
  constructor
  · intro h
    rw [splitRule.eq_def] at h
    split at h
    · obtain ⟨rfl, rfl⟩ := Prod.mk.inj h
      exact .exception _
    · obtain ⟨rfl, rfl⟩ := Prod.mk.inj h
      exact .wildcard _
    · next hexception hwildcard =>
        obtain ⟨rfl, rfl⟩ := Prod.mk.inj h
        exact .exact (fun ⟨rest, hrest⟩ => hexception rest hrest.symm) fun ⟨rest, hrest⟩ => hwildcard rest hrest.symm
  · rintro (_ | _ | ⟨hexception, hwildcard⟩)
    · rfl
    · rfl
    · rw [splitRule]
      · rintro rest rfl
        exact hexception ⟨rest, rfl⟩
      · rintro rest rfl
        exact hwildcard ⟨rest, rfl⟩

theorem readRule?_eq_some_iff : readRule? word = some rule ↔
    ∃ name ascii, Writes word rule.1 name ∧ Idna.toAscii name = some ascii ∧ ascii ≠ [] ∧
      rule.2 = String.ofList ascii := by
  obtain ⟨kind, s⟩ := rule
  rw [readRule?]
  generalize hsplit : splitRule word = parts
  obtain ⟨written, name⟩ := parts
  have hwrites := splitRule_eq_iff.1 hsplit
  constructor
  · intro h
    dsimp only at h
    split at h
    · cases h
    · cases h
    · next ascii hne hascii =>
        obtain ⟨rfl, rfl⟩ := Prod.mk.inj (Option.some.inj h)
        exact ⟨name, ascii, hwrites, hascii, hne, rfl⟩
  · rintro ⟨other, ascii, hother, hascii, hne, rfl⟩
    obtain ⟨rfl, rfl⟩ := Prod.mk.inj (hsplit.symm.trans (splitRule_eq_iff.2 hother))
    dsimp only
    rw [hascii]
    split
    · next hnone => cases hnone
    · next hnil => exact absurd (Option.some.inj hnil) hne
    · next hsome => rw [Option.some.inj hsome]

/-- The rule of a line. -/
def ruleOfLine? (line : List Char) : Option Rule := (wordOfLine? line).bind readRule?

theorem says_iff : Says line rule ↔ ruleOfLine? line = some rule := by
  rw [ruleOfLine?, Option.bind_eq_some_iff]
  constructor
  · rintro ⟨hword, hcomment, hwrites, hascii, hne⟩
    exact ⟨_, wordOfLine?_eq_some_iff.2 ⟨hword, hcomment⟩, readRule?_eq_some_iff.2 ⟨_, _, hwrites, hascii, hne, rfl⟩⟩
  · rintro ⟨word, hword, hrule⟩
    obtain ⟨hword, hcomment⟩ := wordOfLine?_eq_some_iff.1 hword
    obtain ⟨kind, s⟩ := rule
    obtain ⟨name, ascii, hwrites, hascii, hne, rfl⟩ := readRule?_eq_some_iff.1 hrule
    exact .intro hword hcomment hwrites hascii hne

theorem Opens.unique {word' : List Char} (h : Opens line word) (h' : Opens line word') : word = word' :=
  (opens_iff.1 h).1.symm.trans (opens_iff.1 h').1

theorem Writes.unique {kind' : RuleKind} {name' : List Char} (h : Writes word kind name)
    (h' : Writes word kind' name') : kind = kind' ∧ name = name' :=
  Prod.mk.inj ((splitRule_eq_iff.2 h).symm.trans (splitRule_eq_iff.2 h'))

/-- A line without a first word is blank. -/
theorem firstWord_eq_nil_iff : firstWord line = [] ↔ ∀ c ∈ line, isBlank c = true := by
  rw [firstWord, ← trimStart_eq_nil_iff]
  constructor
  · intro h
    cases hstart : trimStart line with
    | nil => rfl
    | cons c later =>
        have hc := head?_trimStart line c (hstart ▸ rfl)
        rw [hstart, List.takeWhile_cons_of_pos (by rw [hc]; rfl)] at h
        cases h
  · intro h
    rw [h]
    rfl

/-- Every line says a rule or is idle. -/
theorem idle_iff : Idle line ↔ ∀ rule, ¬ Says line rule := by
  constructor
  · rintro (hblank | ⟨hword, hcomment⟩ | ⟨hword, -, hwrites, hascii⟩) rule ⟨hopens, hplain, hrule, hname, hne⟩
    · obtain ⟨rfl, hword⟩ := opens_iff.1 hopens
      exact hword (firstWord_eq_nil_iff.2 hblank)
    · exact hplain (hword.unique hopens ▸ hcomment)
    · obtain rfl := hword.unique hopens
      obtain ⟨rfl, rfl⟩ := hwrites.unique hrule
      exact hne (hascii _ hname)
  · intro h
    by_cases hnil : firstWord line = []
    · exact .blank (firstWord_eq_nil_iff.1 hnil)
    have hopens : Opens line (firstWord line) := opens_iff.2 ⟨rfl, hnil⟩
    by_cases hcomment : IsComment (firstWord line)
    · exact .comment hopens hcomment
    have hwrites := splitRule_eq_iff.1 (Prod.eta (splitRule (firstWord line))).symm
    refine .rejected hopens hcomment hwrites fun ascii hascii => Decidable.by_contra fun hne => ?_
    exact h _ (.intro hopens hcomment hwrites hascii hne)

theorem says_congr (h : firstWord line = firstWord other) : Says line rule ↔ Says other rule := by
  rw [says_iff, says_iff, ruleOfLine?, ruleOfLine?, wordOfLine?, wordOfLine?, h]

/-- A blank at the end of a line does not belong to its first word. -/
theorem firstWord_append_blank {c : Char} (hc : isBlank c = true) : firstWord (line ++ [c]) = firstWord line := by
  have hword : [c].takeWhile (fun c => !isBlank c) = [] :=
    List.takeWhile_cons_of_neg (by rw [hc]; exact Bool.false_ne_true)
  rw [firstWord, firstWord, trimStart, trimStart, List.dropWhile_append]
  split
  · next hempty =>
      rw [List.isEmpty_iff.1 hempty, List.dropWhile_cons_of_pos hc]
      rfl
  · rw [List.takeWhile_append, hword, List.append_nil]
    split
    · next hlength => exact ((List.takeWhile_prefix _).eq_of_length hlength).symm
    · rfl

/-! ### Texts -/

/-- What some of the lines say. -/
def Said (lines : List (List Char)) (rule : Rule) : Prop := ∃ line ∈ lines, Says line rule

variable {lines others : List (List Char)} {a b : String}

theorem said_cons : Said (line :: lines) rule ↔ Says line rule ∨ Said lines rule := by
  simp [Said]

theorem said_append : Said (lines ++ others) rule ↔ Said lines rule ∨ Said others rule := by
  simp only [Said, List.mem_append, or_and_right, exists_or]

theorem Restates.said_iff (h : Restates lines others) : Said lines rule ↔ Said others rule := by
  cases h with
  | permuted hperm => exact exists_congr fun line => and_congr_left' hperm.mem_iff
  | repeated hline =>
      rw [said_cons, or_iff_right_of_imp]
      exact fun hsays => ⟨_, hline, hsays⟩
  | idle hidle => rw [said_cons, or_iff_right (idle_iff.1 hidle rule)]
  | reworded hopens hother =>
      have hword := (opens_iff.1 hopens).1.trans (opens_iff.1 hother).1.symm
      rw [said_cons, said_cons, says_congr hword]
  | lineEnd line =>
      have hword : firstWord (line ++ ['\r']) = firstWord line := firstWord_append_blank (by decide)
      rw [said_cons, said_cons, says_congr hword]

/-- Changes that keep what lines say, any number of them. -/
theorem said_iff_of_restated (h : Relation.EqvGen Restates lines others) : Said lines rule ↔ Said others rule := by
  induction h with
  | rel _ _ h => exact h.said_iff
  | refl => exact Iff.rfl
  | symm _ _ _ ih => exact ih.symm
  | trans _ _ _ _ _ ih ih' => exact ih.trans ih'

theorem mem_rulesOf_iff : rule ∈ rulesOf a ↔ Said (linesOf a) rule := by
  simp only [rulesOf, words, List.filterMap_filterMap, List.mem_filterMap, Said, says_iff, ruleOfLine?, linesOf]

theorem mem_names_parse_iff {s : String} : s ∈ (Rules.parse a).names kind ↔ Said (linesOf a) (kind, s) := by
  rw [mem_names_parse, mem_rulesOf_iff]

theorem linesOf_append (a b : String) : linesOf (a ++ "\n" ++ b) = linesOf a ++ linesOf b := by
  have hbreak : (a ++ "\n" ++ b).toList = a.toList ++ '\n' :: b.toList := by
    rw [String.toList_append, String.toList_append, List.append_assoc]
    rfl
  rw [linesOf, hbreak, splitAt_append_sep]
  rfl

namespace Rules

/-- Rule sets are the same that have the same names for each kind. -/
theorem eq_of_names {rules others : Rules} (h : ∀ kind s, s ∈ rules.names kind ↔ s ∈ others.names kind) :
    rules = others := by
  obtain ⟨exact, wildcard, exception⟩ := rules
  obtain ⟨exact', wildcard', exception'⟩ := others
  obtain rfl : exact = exact' := SortedSet.eq_of_mem_iff (h .exact)
  obtain rfl : wildcard = wildcard' := SortedSet.eq_of_mem_iff (h .wildcard)
  obtain rfl : exception = exception' := SortedSet.eq_of_mem_iff (h .exception)
  rfl

/-- The rules of a rule set, kind by kind. -/
def toList (rules : Rules) : List Rule :=
  [RuleKind.exact, .wildcard, .exception].flatMap fun kind => (rules.names kind).toList.map (kind, ·)

theorem mem_toList_iff {rules : Rules} {s : String} : (kind, s) ∈ rules.toList ↔ s ∈ rules.names kind := by
  rw [toList, List.mem_flatMap]
  constructor
  · rintro ⟨kind', -, hmem⟩
    obtain ⟨name, hname, heq⟩ := List.mem_map.1 hmem
    obtain ⟨rfl, rfl⟩ := Prod.mk.inj heq
    exact hname
  · intro h
    exact ⟨kind, by cases kind <;> decide, List.mem_map.2 ⟨s, h, rfl⟩⟩

theorem nodup_toList (rules : Rules) : rules.toList.Nodup := by
  refine List.nodup_flatMap.2 ⟨fun kind _ => ?_, ?_⟩
  · exact (rules.names kind).sorted.nodup.map fun s s' heq => (Prod.mk.inj heq).2
  · have hkinds : [RuleKind.exact, .wildcard, .exception].Pairwise (· ≠ ·) := by decide
    refine hkinds.imp fun {kind kind'} hne rule hrule hrule' => ?_
    obtain ⟨s, -, rfl⟩ := List.mem_map.1 hrule
    obtain ⟨s', -, heq⟩ := List.mem_map.1 hrule'
    exact hne (Prod.mk.inj heq).1.symm

theorem length_toList (rules : Rules) : rules.toList.length = rules.size := by
  simp only [toList, List.flatMap_cons, List.flatMap_nil, List.length_append, List.length_map, List.length_nil, size,
    names, Nat.add_zero, Nat.add_assoc]

end Rules

/-- A rule set has as many rules as its text says different ones. -/
theorem size_parse (a : String) : (Rules.parse a).size = (rulesOf a).toFinset.card := by
  have hsame : (rulesOf a).toFinset = (Rules.parse a).toList.toFinset := by
    ext ⟨kind, s⟩
    rw [List.mem_toFinset, List.mem_toFinset, Rules.mem_toList_iff, mem_names_parse]
  rw [hsame, List.toFinset_card_of_nodup (Rules.nodup_toList _), Rules.length_toList]

/-- A text of rules means the set of the rules that its lines say. The rules of two texts with a line break between them
are those of the one and of the other; what keeps what the lines say changes neither the number of rules nor any answer;
and that number is how many different rules are said, by the lines that are not idle. -/
theorem parse_collects (a : String) :
    (∀ b kind s, s ∈ (Rules.parse (a ++ "\n" ++ b)).names kind ↔
      s ∈ (Rules.parse a).names kind ∨ s ∈ (Rules.parse b).names kind) ∧
    (∀ b, Relation.EqvGen Restates (linesOf a) (linesOf b) → (Rules.parse a).size = (Rules.parse b).size ∧
      ∀ name, (Rules.parse a).longest name = (Rules.parse b).longest name) ∧
    (∃ rules : Finset Rule, (∀ rule, rule ∈ rules ↔ ∃ line ∈ linesOf a, Says line rule) ∧
      (∀ kind s, s ∈ (Rules.parse a).names kind ↔ (kind, s) ∈ rules) ∧ (Rules.parse a).size = rules.card) ∧
    ∀ line, Idle line ↔ ∀ rule, ¬ Says line rule := by
  refine ⟨fun b kind s => ?_, fun b h => ?_, ⟨(rulesOf a).toFinset, fun rule => ?_, fun kind s => ?_, size_parse a⟩,
    fun line => idle_iff⟩
  · rw [mem_names_parse_iff, mem_names_parse_iff, mem_names_parse_iff, linesOf_append, said_append]
  · have hsame : Rules.parse a = Rules.parse b := Rules.eq_of_names fun kind s => by
      rw [mem_names_parse_iff, mem_names_parse_iff, said_iff_of_restated h]
    rw [hsame]
    exact ⟨rfl, fun _ => rfl⟩
  · rw [List.mem_toFinset]
    exact mem_rulesOf_iff
  · rw [List.mem_toFinset, mem_names_parse]

example : (Rules.parse "com\r\n// net\n\n  *.ck test\ncom\n!www.ck").size = 3 := by decide +kernel

end Bailiwick.PublicSuffix
