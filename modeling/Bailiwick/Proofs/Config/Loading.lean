import Bailiwick.Config
import Bailiwick.Proofs.Numeral
import Bailiwick.Proofs.Text
import Mathlib.Logic.Function.Basic

/-!
What is loaded from the variables. Five variables count, and one that is set to blanks only counts as unset. A number
is loaded as the count that stands between blanks, if that is positive and fits; the timeout is looked at before the
number of attempts, and what is loaded is loaded again after it is written.
-/

namespace Bailiwick.Config

open Text

/-- A variable is set to a text that is not blank. -/
structure IsSet (lookup : String → Option String) (name raw : String) : Prop where
  lookup_eq : lookup name = some raw
  not_blank : ∃ c ∈ raw.toList, isBlank c = false

/-- The number that a text stands for, blanks around it apart. -/
def Stands (raw : String) (n : Nat) : Prop := Counts (trim raw.toList) n

/-- A variable is set to a text that stands for no positive number up to the largest one. -/
structure Misread (lookup : String → Option String) (name : String) (largest : Nat) (raw : String) : Prop
    extends IsSet lookup name raw where
  out_of_range : ∀ n, Stands raw n → ¬ (1 ≤ n ∧ n ≤ largest)

/-- The number that is loaded from a variable. -/
inductive Loads (lookup : String → Option String) (name : String) (largest unset : Nat) : Nat → Prop
  | set {raw : String} {n : Nat} (hset : IsSet lookup name raw) (hn : Stands raw n) (hpos : 1 ≤ n) (hle : n ≤ largest) :
      Loads lookup name largest unset n
  | unset (hunset : ∀ raw, ¬ IsSet lookup name raw) : Loads lookup name largest unset unset

/-- What is loaded from the variables. -/
structure Loaded (lookup : String → Option String) (config : Config) : Prop where
  refreshTimeout : Loads lookup refreshTimeoutVariable (2 ^ 64 - 1) 5000 config.refreshTimeout
  maxAttempts : Loads lookup maxAttemptsVariable (2 ^ 32 - 1) 5 config.maxAttempts
  subjectPrefix : IsSet lookup subjectPrefixVariable config.subjectPrefix ∨
    (∀ raw, ¬ IsSet lookup subjectPrefixVariable raw) ∧ config.subjectPrefix = "registry.dns"
  suffixList : ∀ path, config.suffixList = some path ↔ IsSet lookup suffixListVariable path
  messaging : ∀ messaging, config.messaging = some messaging ↔
    ∃ raw, IsSet lookup messagingVariable raw ∧ .ofServers raw = messaging

/-- Why nothing is loaded: a number is misread, and the timeout is looked at first. -/
inductive Refuses (lookup : String → Option String) : Fault → Prop
  | refreshTimeout {raw : String} (h : Misread lookup refreshTimeoutVariable (2 ^ 64 - 1) raw) :
      Refuses lookup (.configuration
        ("REGISTRY_DNS_REFRESH_TIMEOUT_MS must be a positive number of milliseconds, got " ++ quoted raw))
  | maxAttempts {raw : String} (htimeout : ∀ raw, ¬ Misread lookup refreshTimeoutVariable (2 ^ 64 - 1) raw)
      (h : Misread lookup maxAttemptsVariable (2 ^ 32 - 1) raw) :
      Refuses lookup (.configuration ("REGISTRY_TX_MAX_ATTEMPTS must be a positive integer, got " ++ quoted raw))

/-- A configuration is written to the variables, as decimal and plain texts. -/
structure Written (lookup : String → Option String) (config : Config) : Prop where
  refreshTimeout : lookup refreshTimeoutVariable = some (toString config.refreshTimeout)
  maxAttempts : lookup maxAttemptsVariable = some (toString config.maxAttempts)
  subjectPrefix : lookup subjectPrefixVariable = some config.subjectPrefix
  suffixList : lookup suffixListVariable = config.suffixList

/-- The variables that count. -/
def variableNames : List String :=
  [messagingVariable, subjectPrefixVariable, refreshTimeoutVariable, maxAttemptsVariable, suffixListVariable]

variable {lookup other : String → Option String} {name wanted raw : String} {largest unset n : Nat} {fault : Fault}
  {config : Config}

theorem value?_eq_some_iff : value? lookup name = some raw ↔ IsSet lookup name raw := by
  have hblank : (!(trim raw.toList).isEmpty) = true ↔ ∃ c ∈ raw.toList, isBlank c = false := by
    rw [Bool.not_eq_true', ← Bool.not_eq_true, List.isEmpty_iff, trim_eq_nil_iff]
    simp
  rw [value?, Option.filter_eq_some_iff, hblank]
  exact ⟨fun h => ⟨h.1, h.2⟩, fun h => ⟨h.1, h.2⟩⟩

theorem value?_eq_none_iff : value? lookup name = none ↔ ∀ raw, ¬ IsSet lookup name raw := by
  simp only [← value?_eq_some_iff, Option.eq_none_iff_forall_ne_some]

theorem readPositive?_eq_some_iff : readPositive? largest raw = some n ↔ Stands raw n ∧ 1 ≤ n ∧ n ≤ largest := by
  rw [readPositive?, Option.filter_eq_some_iff, readCount?_eq_some_iff, decide_eq_true_iff, and_assoc,
    and_comm (a := n ≤ largest)]
  rfl

theorem misread_iff : Misread lookup name largest raw ↔
    value? lookup name = some raw ∧ readPositive? largest raw = none := by
  rw [value?_eq_some_iff]
  simp only [Option.eq_none_iff_forall_ne_some, ne_eq, readPositive?_eq_some_iff, not_and]
  exact ⟨fun h => ⟨h.toIsSet, fun n hn hpos hle => h.out_of_range n hn ⟨hpos, hle⟩⟩,
    fun h => ⟨h.1, fun n hn hrange => h.2 n hn hrange.1 hrange.2⟩⟩

theorem positive_eq_ok_iff : positive lookup name wanted largest unset = .ok n ↔ Loads lookup name largest unset n := by
  constructor
  · intro h
    rw [positive] at h
    split at h
    · next hvalue =>
        obtain rfl := Except.ok.inj h
        exact .unset (value?_eq_none_iff.1 hvalue)
    · next raw hvalue =>
        split at h
        · next hnumber =>
            obtain rfl := Except.ok.inj h
            obtain ⟨hn, hpos, hle⟩ := readPositive?_eq_some_iff.1 hnumber
            exact .set (value?_eq_some_iff.1 hvalue) hn hpos hle
        · cases h
  · rintro (⟨hset, hn, hpos, hle⟩ | hunset)
    · rw [positive, value?_eq_some_iff.2 hset]
      dsimp only
      rw [readPositive?_eq_some_iff.2 ⟨hn, hpos, hle⟩]
    · rw [positive, value?_eq_none_iff.2 hunset]

theorem positive_eq_error_iff : positive lookup name wanted largest unset = .error fault ↔
    ∃ raw, Misread lookup name largest raw ∧
      fault = .configuration (name ++ " must be a " ++ wanted ++ ", got " ++ quoted raw) := by
  constructor
  · intro h
    rw [positive] at h
    split at h
    · cases h
    · next raw hvalue =>
        split at h
        · cases h
        · next hnumber => exact ⟨raw, misread_iff.2 ⟨hvalue, hnumber⟩, (Except.error.inj h).symm⟩
  · rintro ⟨raw, hmisread, rfl⟩
    obtain ⟨hvalue, hnumber⟩ := misread_iff.1 hmisread
    rw [positive, hvalue]
    dsimp only
    rw [hnumber]
    rfl

theorem not_misread_iff : (∀ raw, ¬ Misread lookup name largest raw) ↔
    ∃ n, positive lookup name wanted largest unset = .ok n := by
  cases h : positive lookup name wanted largest unset with
  | ok n =>
      refine ⟨fun _ => ⟨n, rfl⟩, fun _ raw hmisread => ?_⟩
      cases h.symm.trans (positive_eq_error_iff.2 ⟨raw, hmisread, rfl⟩)
  | error fault =>
      obtain ⟨raw, hmisread, -⟩ := positive_eq_error_iff.1 h
      exact ⟨fun hnone => absurd hmisread (hnone raw), nofun⟩

/-- What the variables are set to decides what is loaded. -/
theorem ofLookup_congr (h : ∀ name ∈ variableNames, value? other name = value? lookup name) :
    ofLookup other = ofLookup lookup := by
  simp only [variableNames, List.forall_mem_cons, List.not_mem_nil] at h
  obtain ⟨hmessaging, hprefix, htimeout, hattempts, hlist, -⟩ := h
  simp only [ofLookup, positive, hmessaging, hprefix, htimeout, hattempts, hlist]

/-! ### The fields -/

theorem subjectPrefix_iff {subjectPrefix : String} :
    (value? lookup subjectPrefixVariable).getD Refresh.defaultSubjectPrefix = subjectPrefix ↔
      IsSet lookup subjectPrefixVariable subjectPrefix ∨
        (∀ raw, ¬ IsSet lookup subjectPrefixVariable raw) ∧ subjectPrefix = "registry.dns" := by
  rw [← value?_eq_none_iff, ← value?_eq_some_iff]
  cases value? lookup subjectPrefixVariable with
  | none => simp [Refresh.defaultSubjectPrefix, eq_comm]
  | some raw => simp

theorem messaging_iff {messaging : Option Messaging} :
    (value? lookup messagingVariable).map Messaging.ofServers = messaging ↔
      ∀ m, messaging = some m ↔ ∃ raw, IsSet lookup messagingVariable raw ∧ .ofServers raw = m := by
  have hmap (m : Messaging) : (value? lookup messagingVariable).map Messaging.ofServers = some m ↔
      ∃ raw, IsSet lookup messagingVariable raw ∧ .ofServers raw = m := by
    simp only [Option.map_eq_some_iff, value?_eq_some_iff]
  simp only [← hmap]
  exact ⟨fun h => h ▸ fun _ => Iff.rfl, fun h => Option.ext fun m => (h m).symm⟩

theorem suffixList_iff {suffixList : Option String} : value? lookup suffixListVariable = suffixList ↔
    ∀ path, suffixList = some path ↔ IsSet lookup suffixListVariable path := by
  simp only [← value?_eq_some_iff]
  exact ⟨fun h => h ▸ fun _ => Iff.rfl, fun h => Option.ext fun path => (h path).symm⟩

/-- What is loaded around the two numbers. -/
def assembled (lookup : String → Option String) (refreshTimeout maxAttempts : Nat) : Config where
  messaging := (value? lookup messagingVariable).map Messaging.ofServers
  subjectPrefix := (value? lookup subjectPrefixVariable).getD Refresh.defaultSubjectPrefix
  refreshTimeout := refreshTimeout
  maxAttempts := maxAttempts
  suffixList := value? lookup suffixListVariable

theorem loaded_iff : Loaded lookup config ↔
    Loads lookup refreshTimeoutVariable (2 ^ 64 - 1) 5000 config.refreshTimeout ∧
      Loads lookup maxAttemptsVariable (2 ^ 32 - 1) 5 config.maxAttempts ∧
      assembled lookup config.refreshTimeout config.maxAttempts = config := by
  obtain ⟨messaging, subjectPrefix, refreshTimeout, maxAttempts, suffixList⟩ := config
  rw [assembled, mk.injEq, messaging_iff, subjectPrefix_iff, suffixList_iff]
  constructor
  · exact fun h => ⟨h.refreshTimeout, h.maxAttempts, h.messaging, h.subjectPrefix, rfl, rfl, h.suffixList⟩
  · exact fun ⟨htimeout, hattempts, hmessaging, hprefix, _, _, hlist⟩ =>
      ⟨htimeout, hattempts, hprefix, hlist, hmessaging⟩

/-! ### Loading -/

section Bind

variable {α β : Type} {first : Except Fault α} {next : α → Except Fault β}

theorem bind_eq_ok_iff {result : β} : first.bind next = .ok result ↔ ∃ a, first = .ok a ∧ next a = .ok result := by
  constructor
  · intro h
    cases first with
    | ok a => exact ⟨a, rfl, h⟩
    | error other => cases h
  · rintro ⟨a, rfl, h⟩
    exact h

theorem bind_eq_error_iff :
    first.bind next = .error fault ↔ first = .error fault ∨ ∃ a, first = .ok a ∧ next a = .error fault := by
  constructor
  · intro h
    cases first with
    | ok a => exact .inr ⟨a, rfl, h⟩
    | error other => exact .inl (congrArg Except.error (Except.error.inj h))
  · rintro (rfl | ⟨a, rfl, h⟩)
    · rfl
    · exact h

end Bind

def timeoutOf (lookup : String → Option String) : Except Fault Nat :=
  positive lookup refreshTimeoutVariable "positive number of milliseconds" (UInt64.size - 1) defaultRefreshTimeout

def attemptsOf (lookup : String → Option String) : Except Fault Nat :=
  positive lookup maxAttemptsVariable "positive integer" (UInt32.size - 1) defaultMaxAttempts

theorem ofLookup_eq (lookup : String → Option String) :
    ofLookup lookup = (timeoutOf lookup).bind fun refreshTimeout =>
      (attemptsOf lookup).bind fun maxAttempts => .ok (assembled lookup refreshTimeout maxAttempts) := rfl

theorem ofLookup_eq_ok_iff : ofLookup lookup = .ok config ↔ Loaded lookup config := by
  have hloaded : Loaded lookup config ↔ timeoutOf lookup = .ok config.refreshTimeout ∧
      attemptsOf lookup = .ok config.maxAttempts ∧
      assembled lookup config.refreshTimeout config.maxAttempts = config := by
    rw [loaded_iff, timeoutOf, attemptsOf, positive_eq_ok_iff, positive_eq_ok_iff]
    rfl
  rw [hloaded, ofLookup_eq]
  constructor
  · intro h
    obtain ⟨refreshTimeout, htimeout, h⟩ := bind_eq_ok_iff.1 h
    obtain ⟨maxAttempts, hattempts, h⟩ := bind_eq_ok_iff.1 h
    obtain rfl := Except.ok.inj h
    exact ⟨htimeout, hattempts, rfl⟩
  · rintro ⟨htimeout, hattempts, hassembled⟩
    exact bind_eq_ok_iff.2 ⟨_, htimeout, bind_eq_ok_iff.2 ⟨_, hattempts, congrArg Except.ok hassembled⟩⟩

theorem ofLookup_eq_error_iff : ofLookup lookup = .error fault ↔ Refuses lookup fault := by
  rw [ofLookup_eq]
  constructor
  · intro h
    rcases bind_eq_error_iff.1 h with htimeout | ⟨refreshTimeout, htimeout, h⟩
    · obtain ⟨raw, hmisread, rfl⟩ := positive_eq_error_iff.1 htimeout
      exact .refreshTimeout hmisread
    · rcases bind_eq_error_iff.1 h with hattempts | ⟨maxAttempts, -, h⟩
      · obtain ⟨raw, hmisread, rfl⟩ := positive_eq_error_iff.1 hattempts
        exact .maxAttempts (not_misread_iff.2 ⟨refreshTimeout, htimeout⟩) hmisread
      · cases h
  · rintro (⟨hmisread⟩ | ⟨hread, hmisread⟩)
    · exact bind_eq_error_iff.2 (.inl (positive_eq_error_iff.2 ⟨_, hmisread, rfl⟩))
    · obtain ⟨refreshTimeout, htimeout⟩ := not_misread_iff.1 hread
      have hattempts : attemptsOf lookup = _ := positive_eq_error_iff.2 ⟨_, hmisread, rfl⟩
      exact bind_eq_error_iff.2 (.inr ⟨refreshTimeout, htimeout, bind_eq_error_iff.2 (.inl hattempts)⟩)

/-! ### Writing back -/

/-- A number that is written to a variable is loaded from it. -/
theorem loads_of_toString (h : lookup name = some (toString n)) (hpos : 1 ≤ n) (hle : n ≤ largest) :
    Loads lookup name largest unset n := by
  have hplain : ∀ c ∈ (toString n).toList, isBlank c = false := by
    rw [toList_toString]
    exact not_blank_of_mem_showNat (by decide) (by decide)
  have hne : (toString n).toList ≠ [] := by
    rw [toList_toString]
    exact showNat_ne_nil (by decide) n
  obtain ⟨c, hc⟩ := List.exists_mem_of_ne_nil _ hne
  have hstands : Stands (toString n) n := by
    rw [Stands, trim_of_not_blank hplain, toList_toString]
    exact counts_showNat n
  exact .set ⟨h, c, hc, hplain c hc⟩ hstands hpos hle

/-- A number that is loaded is positive and fits, as its default is and does. -/
theorem Loads.bounds (h : Loads lookup name largest unset n) (hunset : 1 ≤ unset ∧ unset ≤ largest) :
    1 ≤ n ∧ n ≤ largest := by
  cases h with
  | set _ _ hpos hle => exact ⟨hpos, hle⟩
  | unset => exact hunset

/-- The prefix that is loaded is more than blanks, as its default is. -/
theorem Loaded.subjectPrefix_not_blank (h : Loaded lookup config) :
    ∃ c ∈ config.subjectPrefix.toList, isBlank c = false := by
  rcases h.subjectPrefix with hset | ⟨-, hunset⟩
  · exact hset.not_blank
  · rw [hunset]
    exact ⟨'r', by decide, by decide⟩

/-- What is loaded and written is loaded again, the broker apart. -/
theorem Loaded.written {written : String → Option String} (h : Loaded lookup config)
    (hwritten : Written written config) :
    Loaded written { config with messaging := (value? written messagingVariable).map Messaging.ofServers } where
  refreshTimeout :=
    have hrange := h.refreshTimeout.bounds (by decide)
    loads_of_toString hwritten.refreshTimeout hrange.1 hrange.2
  maxAttempts :=
    have hrange := h.maxAttempts.bounds (by decide)
    loads_of_toString hwritten.maxAttempts hrange.1 hrange.2
  subjectPrefix := .inl ⟨hwritten.subjectPrefix, h.subjectPrefix_not_blank⟩
  suffixList path := by
    constructor
    · intro hpath
      exact ⟨hwritten.suffixList.trans hpath, ((h.suffixList path).1 hpath).not_blank⟩
    · exact fun hset => hwritten.suffixList.symm.trans hset.lookup_eq
  messaging := messaging_iff.1 rfl

/-- Setting a variable to blanks is leaving it unset. -/
theorem value?_update_none (h : lookup name = some raw) (hblank : ∀ c ∈ raw.toList, isBlank c = true) (asked : String) :
    value? (Function.update lookup name none) asked = value? lookup asked := by
  by_cases hasked : asked = name
  · subst hasked
    have hunset : ∀ found, ¬ IsSet lookup asked found := by
      intro found hset
      obtain ⟨c, hc, hplain⟩ := hset.not_blank
      obtain rfl := Option.some.inj (h.symm.trans hset.lookup_eq)
      exact absurd (hblank c hc) (by simp [hplain])
    rw [value?_eq_none_iff.2 hunset, value?, Function.update_self]
    rfl
  · rw [value?, Function.update_of_ne hasked, value?]

/-- Loading accepts the documented values and no others. Only the five variables count, and one that is set to blanks
counts as unset; what is refused and what is loaded is told for every lookup; and what is loaded is loaded again once it
is written. -/
theorem ofLookup_documented (lookup : String → Option String) :
    (∀ other, (∀ name ∈ variableNames, other name = lookup name) → ofLookup other = ofLookup lookup) ∧
    (∀ name raw, lookup name = some raw → (∀ c ∈ raw.toList, isBlank c = true) →
      ofLookup (Function.update lookup name none) = ofLookup lookup) ∧
    (∀ fault, ofLookup lookup = .error fault ↔ Refuses lookup fault) ∧
    (∀ config, ofLookup lookup = .ok config ↔ Loaded lookup config) ∧
    ∀ config, ofLookup lookup = .ok config → ∀ written, Written written config →
      ∃ again, ofLookup written = .ok again ∧ { again with messaging := config.messaging } = config := by
  refine ⟨fun other h => ?_, fun name raw h hblank => ?_, fun fault => ofLookup_eq_error_iff,
    fun config => ofLookup_eq_ok_iff, fun config h written hwritten => ?_⟩
  · exact ofLookup_congr fun name hname => by rw [value?, h name hname, value?]
  · exact ofLookup_congr fun asked _ => value?_update_none h hblank asked
  · exact ⟨_, ofLookup_eq_ok_iff.2 ((ofLookup_eq_ok_iff.1 h).written hwritten), rfl⟩

end Bailiwick.Config
