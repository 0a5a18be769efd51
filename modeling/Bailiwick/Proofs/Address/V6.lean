import Bailiwick.Proofs.Address.Grammar

/-!
IPv6 addresses that are written are read back: what is written is a literal of the address. The run of zero groups that
is left out is the first of the longest ones, and there are as many of these as groups are missing.
-/

namespace Bailiwick.IPv6

open Text

theorem readGroup?_showGroup (group : UInt16) : readGroup? (showGroup group) = some group := by
  have hlength : ¬ 4 < (showGroup group).length :=
    Nat.not_lt.2 (length_showNat_le (by decide) (by decide) (Nat.lt_of_lt_of_le group.toNat_lt (by decide)))
  rw [readGroup?, if_neg hlength, showGroup, readNat?_showNat (by decide) (by decide), Option.map_some,
    UInt16.ofNat_toNat]

/-- Written groups stand between the colons, with or without an IPv4 literal after them. -/
theorem pieces_map_showGroup (tail : Bool) (groups : List UInt16) : Pieces tail (groups.map showGroup) groups := by
  induction groups with
  | nil => exact .nil
  | cons group rest ih => exact .cons (readGroup?_eq_some_iff.1 (readGroup?_showGroup group)) ih

theorem showGroups_eq_intercalate (groups : List UInt16) :
    showGroups groups = [':'].intercalate (groups.map showGroup) :=
  joinWith_eq_intercalate ':' _

/-! ### The longest run of zero groups -/

/-- Zero groups from a position on. -/
def ZerosAt (groups : List UInt16) (start count : Nat) : Prop := ∀ i < count, groups[start + i]? = some 0

/-- The first of the longest runs of zero groups. -/
structure IsFirstLongest (groups : List UInt16) (start count : Nat) : Prop where
  zeros : ZerosAt groups start count
  longest : ∀ other n, ZerosAt groups other n → n ≤ count
  first : ∀ other, ZerosAt groups other count → start ≤ other

section Runs

variable {groups : List UInt16} {start count other n : Nat}

theorem ZerosAt.mono (h : ZerosAt groups start count) (hle : n ≤ count) : ZerosAt groups start n :=
  fun i hi => h i (Nat.lt_of_lt_of_le hi hle)

theorem zerosAt_cons_succ {group : UInt16} : ZerosAt (group :: groups) (start + 1) n ↔ ZerosAt groups start n := by
  have hindex (i : Nat) : (group :: groups)[start + 1 + i]? = groups[start + i]? := by
    rw [Nat.add_right_comm, List.getElem?_cons_succ]
  simp only [ZerosAt, hindex]

theorem zerosAt_cons_zero {group : UInt16} :
    ZerosAt (group :: groups) 0 (n + 1) ↔ group = 0 ∧ ZerosAt groups 0 n := by
  constructor
  · intro h
    refine ⟨Option.some.inj (h 0 (Nat.succ_pos n)), fun i hi => ?_⟩
    have hnext := h (i + 1) (Nat.succ_lt_succ hi)
    rwa [← Nat.add_assoc, List.getElem?_cons_succ] at hnext
  · rintro ⟨rfl, h⟩ i hi
    cases i with
    | zero => rfl
    | succ i =>
        rw [← Nat.add_assoc, List.getElem?_cons_succ]
        exact h i (Nat.lt_of_succ_lt_succ hi)

/-- What is counted from a position on is the greatest number of zero groups there. -/
theorem zerosAt_iff : ZerosAt groups start n ↔ n ≤ (zeroRuns groups)[start]?.getD 0 := by
  induction groups generalizing start n with
  | nil =>
      constructor
      · intro h
        refine Nat.le_of_not_lt fun hpos => ?_
        cases h 0 (Nat.lt_of_le_of_lt (Nat.zero_le _) hpos)
      · intro h i hi
        exact absurd (Nat.lt_of_lt_of_le hi h) (Nat.not_lt_zero i)
  | cons group rest ih =>
      cases start with
      | succ start => rw [zerosAt_cons_succ, ih, zeroRuns, List.getElem?_cons_succ]
      | zero =>
          rw [zeroRuns, List.getElem?_cons_zero, Option.getD_some]
          cases n with
          | zero => exact ⟨fun _ => Nat.zero_le _, fun _ i hi => absurd hi (Nat.not_lt_zero i)⟩
          | succ n =>
              rw [zerosAt_cons_zero, ih, ← List.head?_eq_getElem?, ← List.headD_eq_head?_getD]
              split
              · next hzero => simp only [hzero, true_and, Nat.add_le_add_iff_right]
              · next hzero => simp [hzero]

/-- There is one first longest run. -/
theorem IsFirstLongest.unique (h : IsFirstLongest groups start count) (hother : IsFirstLongest groups other n) :
    start = other ∧ count = n := by
  obtain rfl : count = n :=
    Nat.le_antisymm (hother.longest start count h.zeros) (h.longest other n hother.zeros)
  exact ⟨Nat.le_antisymm (h.first other hother.zeros) (hother.first start h.zeros), rfl⟩

/-- The greatest of some counts, taken up from zero. -/
theorem foldl_max_spec {runs : List Nat} {longest : Nat} (h : runs.foldl max 0 = longest) :
    (∀ run ∈ runs, run ≤ longest) ∧ (0 < longest → longest ∈ runs) := by
  rw [List.foldl_max] at h
  cases hmax : runs.max? with
  | none =>
      obtain rfl := List.max?_eq_none_iff.1 hmax
      rw [hmax] at h
      subst h
      exact ⟨nofun, fun hpos => absurd hpos (by decide)⟩
  | some greatest =>
      obtain ⟨hmem, hle⟩ := List.max?_eq_some_iff.1 hmax
      rw [hmax, Option.getD_some, Nat.zero_max] at h
      exact h ▸ ⟨hle, fun _ => hmem⟩

theorem idxOf_le_of_getElem? {runs : List Nat} {run i : Nat} (h : runs[i]? = some run) : runs.idxOf run ≤ i := by
  refine Nat.le_of_not_lt fun hlt => ?_
  obtain ⟨hi, hget⟩ := List.getElem?_eq_some_iff.1 h
  have hne : (runs[i] == run) = false := List.not_of_lt_findIdx hlt
  rw [hget, beq_self_eq_true] at hne
  cases hne

/-- No run of zero groups is longer than the longest one. -/
theorem le_of_longestZeroRun (h : longestZeroRun groups = (start, count)) (hzeros : ZerosAt groups other n) :
    n ≤ count := by
  have hle := zerosAt_iff.1 hzeros
  cases hget : (zeroRuns groups)[other]? with
  | none =>
      rw [hget, Option.getD_none] at hle
      exact Nat.le_trans hle (Nat.zero_le _)
  | some run =>
      rw [hget, Option.getD_some] at hle
      exact Nat.le_trans hle ((foldl_max_spec (Prod.mk.inj h).2).1 run (List.mem_of_getElem? hget))

/-- The run that is left out is the first longest one. -/
theorem isFirstLongest_longestZeroRun (h : longestZeroRun groups = (start, count)) (hpos : 0 < count) :
    IsFirstLongest groups start count := by
  obtain ⟨hstart, hcount⟩ := Prod.mk.inj h
  have hmem : count ∈ zeroRuns groups := (foldl_max_spec hcount).2 hpos
  have hlt : (zeroRuns groups).idxOf count < (zeroRuns groups).length := List.idxOf_lt_length_of_mem hmem
  rw [hcount] at hstart
  refine ⟨?zeros, fun _ _ => le_of_longestZeroRun h, ?first⟩
  case zeros =>
    rw [zerosAt_iff, ← hstart, List.getElem?_eq_getElem hlt, List.getElem_idxOf]
    exact Nat.le_refl count
  case first =>
    intro other hzeros
    have hle := zerosAt_iff.1 hzeros
    rw [← hstart]
    apply idxOf_le_of_getElem?
    cases hget : (zeroRuns groups)[other]? with
    | none =>
        rw [hget, Option.getD_none] at hle
        exact absurd hpos (Nat.not_lt.2 hle)
    | some run =>
        rw [hget, Option.getD_some] at hle
        -- The zero groups that are counted at the other position are no more than the longest run has.
        have hge : run ≤ count := (foldl_max_spec hcount).1 run (List.mem_of_getElem? hget)
        rw [Nat.le_antisymm hge hle]

/-- The zero groups of a run, and what stands after them. -/
theorem ZerosAt.drop_eq (h : ZerosAt groups start count) :
    groups.drop start = List.replicate count 0 ++ groups.drop (start + count) := by
  have htake : (groups.drop start).take count = List.replicate count 0 := by
    apply List.ext_getElem?
    intro i
    rw [List.getElem?_take, List.getElem?_replicate, List.getElem?_drop]
    split
    · next hi => exact h i hi
    · rfl
  rw [← htake, ← List.drop_drop, List.take_append_drop]

end Runs

/-! ### Writing -/

/-- The octets of two groups are put together again. -/
theorem groupsOfV4_octets (high low : UInt16) :
    groupsOfV4 ⟨(high >>> 8).toUInt8, high.toUInt8, (low >>> 8).toUInt8, low.toUInt8⟩ = [high, low] := by
  have hgroup (group : UInt16) : (group >>> 8).toUInt8.toUInt16 <<< 8 ||| group.toUInt8.toUInt16 = group := by
    have hlt := group.toNat_lt
    have hlow : group.toNat % 2 ^ 8 < 2 ^ 8 := Nat.mod_lt _ (by decide)
    have hhigh : (group.toNat / 2 ^ 8 % 2 ^ 8) <<< 8 < 2 ^ 16 := by
      rw [Nat.shiftLeft_eq]
      omega
    apply UInt16.toNat_inj.1
    simp only [UInt16.toNat_or, UInt16.toNat_shiftLeft, UInt8.toNat_toUInt16, UInt16.toNat_toUInt8,
      UInt16.toNat_shiftRight, UInt16.reduceToNat, Nat.reduceMod, Nat.shiftRight_eq_div_pow]
    rw [Nat.mod_eq_of_lt hhigh, ← Nat.shiftLeft_add_eq_or_of_lt hlow, Nat.shiftLeft_eq]
    omega
  rw [groupsOfV4, hgroup, hgroup]

/-- The octets of a group are taken apart again. -/
theorem octets_group (high low : UInt8) : ((high.toUInt16 <<< 8 ||| low.toUInt16) >>> 8).toUInt8 = high ∧
    (high.toUInt16 <<< 8 ||| low.toUInt16).toUInt8 = low := by
  have hhigh := high.toNat_lt
  have hlow : low.toNat < 2 ^ 8 := low.toNat_lt
  have hshift : high.toNat <<< 8 < 2 ^ 16 := by
    rw [Nat.shiftLeft_eq]
    omega
  have hgroup : (high.toUInt16 <<< 8 ||| low.toUInt16).toNat = high.toNat * 2 ^ 8 + low.toNat := by
    simp only [UInt16.toNat_or, UInt16.toNat_shiftLeft, UInt8.toNat_toUInt16, UInt16.reduceToNat, Nat.reduceMod]
    rw [Nat.mod_eq_of_lt hshift, ← Nat.shiftLeft_add_eq_or_of_lt hlow, Nat.shiftLeft_eq]
  constructor
  · apply UInt8.toNat_inj.1
    simp only [UInt16.toNat_toUInt8, UInt16.toNat_shiftRight, hgroup, UInt16.reduceToNat, Nat.reduceMod,
      Nat.shiftRight_eq_div_pow]
    omega
  · apply UInt8.toNat_inj.1
    rw [UInt16.toNat_toUInt8, hgroup]
    omega

theorem mapped?_groupsOfV4 (ip : IPv4) :
    mapped? (List.replicate 5 0 ++ 0xFFFF :: groupsOfV4 ip) = some ip := by
  change some (IPv4.mk _ _ _ _) = _
  rw [(octets_group ip.a ip.b).1, (octets_group ip.a ip.b).2, (octets_group ip.c ip.d).1, (octets_group ip.c ip.d).2]

theorem mapped?_eq_some {groups : List UInt16} {ip : IPv4} (h : mapped? groups = some ip) :
    groups = List.replicate 5 0 ++ 0xFFFF :: groupsOfV4 ip := by
  unfold mapped? at h
  split at h
  · obtain rfl := Option.some.inj h
    rw [groupsOfV4_octets]
    rfl
  · cases h

theorem isLiteral_mapped {ip : IPv6} {v4 : IPv4} (h : mapped? ip.groups = some v4) :
    ip.IsLiteral ("::ffff:".toList ++ v4.render) := by
  have hmarker : Pieces true [['f', 'f', 'f', 'f'], v4.render] (0xFFFF :: groupsOfV4 v4) :=
    .cons (readGroup?_eq_some_iff.1 (by decide +kernel)) (.dotted rfl (IPv4.isLiteral_iff.2 rfl))
  have htext : "::ffff:".toList ++ v4.render
      = [':'].intercalate [] ++ ':' :: ':' :: [':'].intercalate [['f', 'f', 'f', 'f'], v4.render] := by
    rw [List.intercalate_cons_cons, List.intercalate_singleton]
    rfl
  rw [htext]
  exact .shortened .nil hmarker (Nat.succ_pos 4) (mapped?_eq_some h)

theorem isLiteral_showGroups (ip : IPv6) : ip.IsLiteral (showGroups ip.groups) := by
  rw [showGroups_eq_intercalate]
  exact .full (pieces_map_showGroup true ip.groups)

theorem isLiteral_shortened {ip : IPv6} {start count : Nat} (hpos : 0 < count) (h : ZerosAt ip.groups start count) :
    ip.IsLiteral (showGroups (ip.groups.take start) ++ ':' :: ':' :: showGroups (ip.groups.drop (start + count))) := by
  have hgroups : ip.groups = ip.groups.take start ++ List.replicate count 0 ++ ip.groups.drop (start + count) := by
    rw [List.append_assoc, ← h.drop_eq, List.take_append_drop]
  rw [showGroups_eq_intercalate, showGroups_eq_intercalate]
  exact .shortened (pieces_map_showGroup false _) (pieces_map_showGroup true _) hpos hgroups

/-- What is written for an address is a literal of it. -/
theorem isLiteral_render (ip : IPv6) : ip.IsLiteral ip.render := by
  rw [render]
  split
  · next hmapped => exact isLiteral_mapped hmapped
  · split
    next start count hlongest =>
      split
      · exact isLiteral_showGroups ip
      · next hcount =>
          have hpos : 0 < count := by omega
          exact isLiteral_shortened hpos (isFirstLongest_longestZeroRun hlongest hpos).zeros

/-- An address is read back from its text. -/
theorem read?_render (ip : IPv6) : read? ip.render = some ip := read?_eq_some_iff.2 (isLiteral_render ip)

theorem colon_mem_render (ip : IPv6) : ':' ∈ ip.render := by
  rw [render]
  split
  · exact List.mem_append_left _ (by decide)
  · split
    split
    · obtain ⟨groups, hlength⟩ := ip
      match groups, hlength with
      | group :: next :: rest, _ => exact List.mem_append_right (showGroup group) List.mem_cons_self
    · exact List.mem_append_right _ List.mem_cons_self

end Bailiwick.IPv6
