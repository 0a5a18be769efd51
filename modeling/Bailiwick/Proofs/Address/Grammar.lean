import Bailiwick.Address.V6
import Bailiwick.Proofs.Address.V4

/-!
The literals of IPv6 addresses as a grammar: eight groups of up to four hexadecimal digits, of which the last two may be
an IPv4 literal and a run of zero groups may be left out between two adjoining colons. What is read is what the grammar
has.
-/

namespace Bailiwick.IPv6

open Text

/-- A group is one to four hexadecimal digits. -/
structure IsGroup (piece : List Char) (group : UInt16) : Prop where
  length_le : piece.length ≤ 4
  denotes : Denotes 16 piece group.toNat

/-- What stands between the colons for groups; where `tail` says so, an IPv4 literal may stand for the last two. -/
inductive Pieces (tail : Bool) : List (List Char) → List UInt16 → Prop
  | nil : Pieces tail [] []
  | dotted {piece : List Char} {v4 : IPv4} (htail : tail = true) (hpiece : v4.IsLiteral piece) :
      Pieces tail [piece] (groupsOfV4 v4)
  | cons {piece : List Char} {group : UInt16} {pieces : List (List Char)} {groups : List UInt16}
      (hpiece : IsGroup piece group) (hrest : Pieces tail pieces groups) :
      Pieces tail (piece :: pieces) (group :: groups)

/-- An IPv6 literal has all groups, or leaves out zero groups between two adjoining colons. -/
inductive IsLiteral (ip : IPv6) : List Char → Prop
  | full {pieces : List (List Char)} (hpieces : Pieces true pieces ip.groups) : IsLiteral ip ([':'].intercalate pieces)
  | shortened {front back : List (List Char)} {before after : List UInt16} {missing : Nat}
      (hfront : Pieces false front before) (hback : Pieces true back after) (hpos : 0 < missing)
      (hgroups : ip.groups = before ++ List.replicate missing 0 ++ after) :
      IsLiteral ip ([':'].intercalate front ++ ':' :: ':' :: [':'].intercalate back)

variable {tail : Bool} {piece s : List Char} {pieces : List (List Char)} {group : UInt16} {groups : List UInt16}
  {ip : IPv6}

/-! ### Where two colons adjoin -/

theorem splitRun?_cons_of_ne {c : Char} (h : c ≠ ':') (s : List Char) :
    splitRun? (c :: s) = (splitRun? s).map fun (before, after) => (c :: before, after) := by
  rw [splitRun?]
  rintro rest rfl
  exact absurd rfl h

theorem splitRun?_colon_of_ne {c : Char} (h : c ≠ ':') (s : List Char) :
    splitRun? (':' :: c :: s) = (splitRun? (c :: s)).map fun (before, after) => (':' :: before, after) := by
  rw [splitRun?]
  rintro rest - hrest
  exact absurd (List.cons.inj hrest).1 h

theorem exists_joinWith_cons (hpiece : piece ≠ [] ∧ ':' ∉ piece) (pieces : List (List Char)) :
    ∃ c later, joinWith ':' (piece :: pieces) = c :: later ∧ c ≠ ':' := by
  obtain ⟨c, later, rfl⟩ := List.exists_cons_of_ne_nil hpiece.1
  have hc : c ≠ ':' := by
    rintro rfl
    exact hpiece.2 List.mem_cons_self
  exact ⟨c, _, joinWith_cons_cons ':' c later pieces, hc⟩

/-- A text without colons in front changes nothing. -/
theorem splitRun?_append_eq_none {piece : List Char} (h : ':' ∉ piece) {s : List Char} (hs : splitRun? s = none) :
    splitRun? (piece ++ s) = none := by
  induction piece with
  | nil => exact hs
  | cons c rest ih =>
      have hc : c ≠ ':' := fun heq => h (heq ▸ List.mem_cons_self)
      rw [List.cons_append, splitRun?_cons_of_ne hc, ih fun hmem => h (List.mem_cons_of_mem c hmem)]
      rfl

/-- Between pieces no two colons adjoin, nor with one more colon behind them. -/
theorem splitRun?_joinWith_append (hpieces : ∀ piece ∈ pieces, piece ≠ [] ∧ ':' ∉ piece) (hs : splitRun? s = none) :
    splitRun? (joinWith ':' pieces ++ s) = none := by
  induction pieces with
  | nil => exact hs
  | cons piece rest ih =>
      obtain ⟨⟨-, hpiece⟩, hrest⟩ := List.forall_mem_cons.1 hpieces
      cases rest with
      | nil => exact splitRun?_append_eq_none hpiece hs
      | cons next rest =>
          obtain ⟨c, later, hnext, hc⟩ := exists_joinWith_cons (hrest next List.mem_cons_self) rest
          have hcolon : splitRun? (':' :: (joinWith ':' (next :: rest) ++ s)) = none := by
            rw [hnext, List.cons_append, splitRun?_colon_of_ne hc, ← List.cons_append, ← hnext, ih hrest]
            rfl
          rw [joinWith_cons_of_ne_nil ':' piece (List.cons_ne_nil _ _), List.append_assoc, List.cons_append]
          exact splitRun?_append_eq_none hpiece hcolon

/-- What is taken apart is put together around two colons. -/
theorem eq_of_splitRun? {before after : List Char} (h : splitRun? s = some (before, after)) :
    s = before ++ ':' :: ':' :: after := by
  fun_induction splitRun? s generalizing before with
  | case1 rest =>
      obtain ⟨rfl, rfl⟩ := Prod.mk.inj (Option.some.inj h)
      rfl
  | case2 c rest _ ih =>
      obtain ⟨sides, hsides, heq⟩ := Option.map_eq_some_iff.1 h
      obtain ⟨rfl, rfl⟩ := Prod.mk.inj heq
      exact congrArg (c :: ·) (ih hsides)
  | case3 => cases h

/-- The first two adjoining colons part a text. -/
theorem splitRun?_append {before : List Char} (h : splitRun? (before ++ [':']) = none) (after : List Char) :
    splitRun? (before ++ ':' :: ':' :: after) = some (before, after) := by
  induction before with
  | nil => rfl
  | cons c rest ih =>
      by_cases hc : c = ':'
      · subst hc
        cases rest with
        | nil => cases h
        | cons d rest =>
            by_cases hd : d = ':'
            · subst hd
              cases h
            · rw [List.cons_append, List.cons_append, splitRun?_colon_of_ne hd, Option.map_eq_none_iff] at h
              rw [List.cons_append, List.cons_append, splitRun?_colon_of_ne hd, ← List.cons_append, ih h]
              rfl
      · rw [List.cons_append, splitRun?_cons_of_ne hc, Option.map_eq_none_iff] at h
        rw [List.cons_append, splitRun?_cons_of_ne hc, ih h]
        rfl

/-! ### Reading -/

theorem readGroup?_eq_some_iff : readGroup? piece = some group ↔ IsGroup piece group := by
  rw [readGroup?]
  constructor
  · intro h
    split at h
    · cases h
    · next hlength =>
        obtain ⟨n, hnumber, rfl⟩ := Option.map_eq_some_iff.1 h
        have hle : piece.length ≤ 4 := Nat.not_lt.1 hlength
        have hdenotes := (readNat?_eq_some_iff (by decide)).1 hnumber
        have hlt : n < 2 ^ 16 := calc
          n < 16 ^ piece.length := hdenotes.lt_pow (by decide)
          _ ≤ 16 ^ 4 := Nat.pow_le_pow_right (by decide) hle
          _ = 2 ^ 16 := by decide
        refine ⟨hle, ?_⟩
        rw [UInt16.toNat_ofNat_of_lt' hlt]
        exact hdenotes
  · rintro ⟨hlength, hdenotes⟩
    rw [if_neg (Nat.not_lt.2 hlength), (readNat?_eq_some_iff (by decide)).2 hdenotes, Option.map_some,
      UInt16.ofNat_toNat]

theorem readGroup?_renderV4 (ip : IPv4) : readGroup? ip.render = none := by
  have hdot : '.' ∈ ip.render := List.mem_append_right (IPv4.showOctet ip.a) List.mem_cons_self
  rw [readGroup?]
  split
  · rfl
  · cases hnumber : readNat? 16 ip.render with
    | none => rfl
    | some n => exact absurd (by decide) (digitValue_ne_none_of_readNat? hnumber '.' hdot)

/-- No piece is empty or holds a colon. -/
theorem Pieces.proper (h : Pieces tail pieces groups) : ∀ piece ∈ pieces, piece ≠ [] ∧ ':' ∉ piece := by
  induction h with
  | nil => exact nofun
  | @dotted piece v4 _ hpiece =>
      rw [List.forall_mem_singleton]
      have hread := IPv4.read?_eq_some_iff.2 hpiece
      constructor
      · rintro rfl
        cases hread
      · intro hcolon
        rw [IPv4.read?_eq_none_of_mem hcolon (by decide) (by decide)] at hread
        cases hread
  | cons hpiece _ ih =>
      have hread := (readNat?_eq_some_iff (by decide)).2 hpiece.denotes
      refine List.forall_mem_cons.2 ⟨⟨?_, ?_⟩, ih⟩
      · rintro rfl
        cases hread
      · intro hcolon
        exact digitValue_ne_none_of_readNat? hread ':' hcolon (by decide)

theorem readPieces?_eq_some_iff : readPieces? tail pieces = some groups ↔ Pieces tail pieces groups := by
  constructor
  · intro h
    induction pieces generalizing groups with
    | nil =>
        obtain rfl := Option.some.inj h
        exact .nil
    | cons piece rest ih =>
        cases rest with
        | nil =>
            rw [readPieces?] at h
            split at h
            · next group hgroup =>
                obtain rfl := Option.some.inj h
                exact .cons (readGroup?_eq_some_iff.1 hgroup) .nil
            · split at h
              · next htail =>
                  obtain ⟨v4, hread, rfl⟩ := Option.map_eq_some_iff.1 h
                  exact .dotted htail (IPv4.read?_eq_some_iff.1 hread)
              · cases h
        | cons next rest =>
            obtain ⟨group, hgroup, h⟩ := Option.bind_eq_some_iff.1 h
            obtain ⟨groups, hrest, h⟩ := Option.bind_eq_some_iff.1 h
            obtain rfl := Option.some.inj h
            exact .cons (readGroup?_eq_some_iff.1 hgroup) (ih hrest)
  · intro h
    induction h with
    | nil => rfl
    | @dotted piece v4 htail hpiece =>
        obtain rfl := IPv4.isLiteral_iff.1 hpiece
        rw [readPieces?, readGroup?_renderV4, htail, IPv4.read?_render]
        rfl
    | @cons piece group pieces groups hpiece hrest ih =>
        have hgroup := readGroup?_eq_some_iff.2 hpiece
        cases pieces with
        | nil =>
            cases hrest
            rw [readPieces?, hgroup]
        | cons next pieces =>
            rw [readPieces?, hgroup, ih]
            rfl

theorem readSide?_eq_some_iff :
    readSide? tail s = some groups ↔ ∃ pieces, Pieces tail pieces groups ∧ s = [':'].intercalate pieces := by
  constructor
  · intro h
    rw [readSide?] at h
    split at h
    · next hempty =>
        obtain rfl := Option.some.inj h
        exact ⟨[], .nil, List.isEmpty_iff.1 hempty⟩
    · refine ⟨_, readPieces?_eq_some_iff.1 h, ?_⟩
      rw [← joinWith_eq_intercalate, joinWith_splitAt]
  · rintro ⟨pieces, hpieces, rfl⟩
    rw [← joinWith_eq_intercalate]
    by_cases hnil : pieces = []
    · subst hnil
      cases hpieces
      rfl
    · have hne : joinWith ':' pieces ≠ [] := by
        obtain ⟨first, rest, rfl⟩ := List.exists_cons_of_ne_nil hnil
        obtain ⟨c, later, hcons, -⟩ := exists_joinWith_cons (hpieces.proper first List.mem_cons_self) rest
        rw [hcons]
        exact List.cons_ne_nil c later
      rw [readSide?, if_neg (by rwa [List.isEmpty_iff]),
        splitAt_joinWith hnil fun piece hpiece => (hpieces.proper piece hpiece).2]
      exact readPieces?_eq_some_iff.2 hpieces

theorem ofGroups?_eq_some_iff : ofGroups? groups = some ip ↔ groups = ip.groups := by
  constructor
  · intro h
    rw [ofGroups?] at h
    split at h
    · obtain rfl := Option.some.inj h
      rfl
    · cases h
  · rintro rfl
    exact dif_pos ip.length_groups

theorem read?_of_splitRun? {before after : List Char} (h : splitRun? s = some (before, after)) :
    read? s = some ip ↔ ∃ front back, readSide? false before = some front ∧ readSide? true after = some back ∧
      ∃ missing, 0 < missing ∧ ip.groups = front ++ List.replicate missing 0 ++ back := by
  rw [read?, h]
  constructor
  · intro hread
    obtain ⟨front, hfront, hread⟩ := Option.bind_eq_some_iff.1 hread
    obtain ⟨back, hback, hread⟩ := Option.bind_eq_some_iff.1 hread
    refine ⟨front, back, hfront, hback, 8 - (front.length + back.length), ?_⟩
    dsimp only at hread
    split at hread
    · cases hread
    · next hmissing => exact ⟨Nat.pos_of_ne_zero hmissing, (ofGroups?_eq_some_iff.1 hread).symm⟩
  · rintro ⟨front, back, hfront, hback, missing, hpos, hgroups⟩
    have hlength : front.length + missing + back.length = 8 := by
      rw [← ip.length_groups, hgroups, List.length_append, List.length_append, List.length_replicate]
    have hmissing : 8 - (front.length + back.length) = missing := by omega
    change (readSide? false before).bind (fun front => (readSide? true after).bind fun back => _) = some ip
    rw [hfront, hback, Option.bind_some, Option.bind_some, hmissing, if_neg (Nat.ne_of_gt hpos)]
    exact ofGroups?_eq_some_iff.2 hgroups.symm

/-- What is read as an address is what the grammar has. -/
theorem read?_eq_some_iff : read? s = some ip ↔ ip.IsLiteral s := by
  constructor
  · intro h
    cases hrun : splitRun? s with
    | none =>
        rw [read?, hrun] at h
        obtain ⟨groups, hgroups, h⟩ := Option.bind_eq_some_iff.1 h
        obtain rfl := ofGroups?_eq_some_iff.1 h
        rw [← joinWith_splitAt ':' s, joinWith_eq_intercalate]
        exact .full (readPieces?_eq_some_iff.1 hgroups)
    | some sides =>
        obtain ⟨front, back, hfront, hback, missing, hpos, hgroups⟩ := (read?_of_splitRun? hrun).1 h
        obtain ⟨fronts, hfronts, hbefore⟩ := readSide?_eq_some_iff.1 hfront
        obtain ⟨backs, hbacks, hafter⟩ := readSide?_eq_some_iff.1 hback
        rw [eq_of_splitRun? hrun, hbefore, hafter]
        exact .shortened hfronts hbacks hpos hgroups
  · rintro (⟨hpieces⟩ | ⟨hfront, hback, hpos, hgroups⟩)
    · next pieces =>
        have hne : pieces ≠ [] := by
          rintro rfl
          have hlength := ip.length_groups
          generalize ip.groups = groups at hpieces hlength
          cases hpieces
          cases hlength
        have hrun := splitRun?_joinWith_append hpieces.proper (s := []) rfl
        rw [List.append_nil] at hrun
        rw [← joinWith_eq_intercalate, read?, hrun]
        change (readPieces? true (splitAt ':' (joinWith ':' pieces))).bind ofGroups? = some ip
        rw [splitAt_joinWith hne fun piece hpiece => (hpieces.proper piece hpiece).2, readPieces?_eq_some_iff.2 hpieces]
        exact ofGroups?_eq_some_iff.2 rfl
    · have hrun := splitRun?_joinWith_append hfront.proper (s := [':']) rfl
      rw [joinWith_eq_intercalate] at hrun
      refine (read?_of_splitRun? (splitRun?_append hrun _)).2 ⟨_, _, ?_, ?_, _, hpos, hgroups⟩
      · exact readSide?_eq_some_iff.2 ⟨_, hfront, rfl⟩
      · exact readSide?_eq_some_iff.2 ⟨_, hback, rfl⟩

end Bailiwick.IPv6
