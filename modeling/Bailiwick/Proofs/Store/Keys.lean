import Bailiwick.Proofs.Store.Growth

/-!
Keys of domains. A link names a domain by its key, and changes the first row that carries it. Where distinct rows
carry distinct keys that is the only row with the key, under whatever name it stands. A row that is replaced by
one with its key and its hosts goes on, and so does every row when hosts are linked to domains.
-/

namespace Bailiwick

namespace Table

variable {ρ : Type}

/-- The rows of a table, without the keys that they stand under. -/
def rows (t : Table ρ) : List ρ := t.entries.map Prod.snd

theorem lookup_cons_eq (key k : String) (row : ρ) (rest : List (String × ρ)) :
    ((key, row) :: rest).lookup k = if k = key then some row else rest.lookup k := by
  by_cases h : k = key
  · simp [h]
  · simp [List.lookup_cons, h, beq_false_of_ne h]

theorem mem_rows_of_lookup {entries : List (String × ρ)} {key : String} {row : ρ}
    (h : entries.lookup key = some row) : row ∈ entries.map Prod.snd := by
  induction entries with
  | nil => cases h
  | cons entry rest ih =>
      rw [lookup_cons_eq] at h
      split at h
      · exact List.mem_cons.2 (.inl (Option.some.inj h).symm)
      · exact List.mem_cons_of_mem _ (ih h)

theorem mem_rows_of_get? {t : Table ρ} {key : String} {row : ρ} (h : t.get? key = some row) : row ∈ t.rows :=
  mem_rows_of_lookup h

/-- Where a property differs from row to row, a row is the only one with its value. -/
theorem filter_eq_singleton_of_nodup {κ : Type} [DecidableEq κ] {g : ρ → κ} {rows : List ρ}
    (h : (rows.map g).Nodup) {row : ρ} (hmem : row ∈ rows) : rows.filter (fun r => g r = g row) = [row] := by
  induction rows with
  | nil => cases hmem
  | cons first rest ih =>
      obtain ⟨hfirst, hrest⟩ := List.nodup_cons.1 h
      rcases List.mem_cons.1 hmem with rfl | hlater
      · have hnone : rest.filter (fun r => g r = g row) = [] := by
          apply List.filter_eq_nil_iff.2
          intro other hother hsame
          exact hfirst (List.mem_map.2 ⟨other, hother, of_decide_eq_true hsame⟩)
        simp [hnone]
      · have hne : g first ≠ g row := fun hsame => hfirst (List.mem_map.2 ⟨row, hlater, hsame.symm⟩)
        simpa [hne] using ih hrest hlater

/-- A change of the only row that satisfies a condition is found under the key of that row. -/
theorem lookup_updateFirstEntry_of_filter {p : ρ → Bool} {f : ρ → ρ} {entries : List (String × ρ)} {key : String}
    {row : ρ} (hrow : entries.lookup key = some row) (honly : (entries.map Prod.snd).filter p = [row])
    (k : String) :
    (updateFirstEntry p f entries).lookup k = if k = key then some (f row) else entries.lookup k := by
  induction entries with
  | nil => cases hrow
  | cons entry rest ih =>
      obtain ⟨a, first⟩ := entry
      rw [lookup_cons_eq] at hrow
      by_cases hp : p first = true
      · -- The first row is the only one, so the row cannot have been found behind it.
        rw [List.map_cons, List.filter_cons_of_pos hp] at honly
        obtain ⟨rfl, hnone⟩ : first = row ∧ (rest.map Prod.snd).filter p = [] := List.cons.inj honly
        split at hrow
        · next hkey =>
            rw [updateFirstEntry, if_pos hp, lookup_cons_eq, lookup_cons_eq, hkey]
            split <;> rfl
        · exact absurd hp (List.filter_eq_nil_iff.1 hnone first (mem_rows_of_lookup hrow))
      · rw [List.map_cons, List.filter_cons_of_neg hp] at honly
        split at hrow
        · obtain rfl := Option.some.inj hrow
          have hmem : first ∈ (rest.map Prod.snd).filter p := honly ▸ List.mem_singleton_self first
          exact absurd (List.mem_filter.1 hmem).2 hp
        · next hne =>
            rw [updateFirstEntry, if_neg hp, lookup_cons_eq, lookup_cons_eq, ih hrow honly]
            by_cases hk : k = key
            · rw [if_pos hk, if_pos hk, if_neg (hk ▸ hne)]
            · rw [if_neg hk, if_neg hk]

/-- What stands under a key after the change of a row is what stood there before, changed or not. -/
theorem lookup_updateFirstEntry_cases (p : ρ → Bool) (f : ρ → ρ) (entries : List (String × ρ)) (key : String) :
    (updateFirstEntry p f entries).lookup key = entries.lookup key ∨
      (updateFirstEntry p f entries).lookup key = (entries.lookup key).map f := by
  induction entries with
  | nil => exact .inl rfl
  | cons entry rest ih =>
      obtain ⟨k, row⟩ := entry
      rw [updateFirstEntry, lookup_cons_eq]
      split
      · rw [lookup_cons_eq]
        split
        · exact .inr rfl
        · exact .inl rfl
      · rw [lookup_cons_eq]
        split
        · exact .inl rfl
        · exact ih

/-- A change of the first row that satisfies a condition is found by the condition. -/
theorem find?_rows_updateFirst (t : Table ρ) {p : ρ → Bool} {f : ρ → ρ} (hf : ∀ row, p (f row) = p row) :
    (t.updateFirst p f).rows.find? p = (t.rows.find? p).map f := by
  obtain ⟨entries⟩ := t
  change ((updateFirstEntry p f entries).map Prod.snd).find? p = ((entries.map Prod.snd).find? p).map f
  induction entries with
  | nil => rfl
  | cons entry rest ih =>
      obtain ⟨k, row⟩ := entry
      rw [updateFirstEntry, List.map_cons]
      by_cases hrow : p row = true
      · rw [if_pos hrow, List.find?_cons_of_pos hrow, List.map_cons, List.find?_cons_of_pos (by rw [hf, hrow])]
        rfl
      · rw [if_neg hrow, List.find?_cons_of_neg hrow, List.map_cons, List.find?_cons_of_neg hrow, ih]

/-- A change of the first row that satisfies a condition is not found by a condition that excludes it. -/
theorem find?_rows_updateFirst_of_disjoint (t : Table ρ) {p q : ρ → Bool} {f : ρ → ρ}
    (hf : ∀ row, q (f row) = q row) (hpq : ∀ row, p row = true → q row = false) :
    (t.updateFirst p f).rows.find? q = t.rows.find? q := by
  obtain ⟨entries⟩ := t
  change ((updateFirstEntry p f entries).map Prod.snd).find? q = (entries.map Prod.snd).find? q
  induction entries with
  | nil => rfl
  | cons entry rest ih =>
      obtain ⟨k, row⟩ := entry
      rw [updateFirstEntry, List.map_cons, List.find?_cons]
      split
      · next hrow => rw [List.map_cons, List.find?_cons, hf, hpq row hrow]
      · rw [List.map_cons, List.find?_cons, ih]

/-- What the change of a row does not touch, no row has changed. -/
theorem map_rows_updateFirst {σ : Type} (t : Table ρ) (p : ρ → Bool) (f : ρ → ρ) (g : ρ → σ)
    (hg : ∀ row, g (f row) = g row) : (t.updateFirst p f).rows.map g = t.rows.map g := by
  obtain ⟨entries⟩ := t
  change ((updateFirstEntry p f entries).map Prod.snd).map g = (entries.map Prod.snd).map g
  induction entries with
  | nil => rfl
  | cons entry rest ih =>
      rw [updateFirstEntry]
      split
      · simp only [List.map_cons, hg]
      · simp only [List.map_cons, ih]

/-- Where a property is the same from row to row in two lists, a value that one row of the first has is had by one row
of the second. -/
theorem filter_eq_singleton_of_map_eq {κ : Type} [DecidableEq κ] {g : ρ → κ} {rows rows' : List ρ}
    (h : rows'.map g = rows.map g) {value : κ} {row other : ρ}
    (honly : rows.filter (fun r => g r = value) = [row]) (hmem : other ∈ rows') (hvalue : g other = value) :
    rows'.filter (fun r => g r = value) = [other] := by
  have hcount (l : List ρ) : (l.filter fun r => g r = value).length = ((l.map g).filter fun v => v = value).length := by
    rw [List.filter_map, List.length_map]
    rfl
  have hlength : (rows'.filter fun r => g r = value).length = 1 := by
    rw [hcount, h, ← hcount, honly]
    rfl
  obtain ⟨found, hfound⟩ := List.length_eq_one_iff.1 hlength
  have hother : other ∈ rows'.filter fun r => g r = value := List.mem_filter.2 ⟨hmem, decide_eq_true hvalue⟩
  rw [hfound, List.mem_singleton] at hother
  rw [hfound, hother]

end Table

namespace Domain

/-- A row has the key of an older one and all the hosts of it. -/
def Continues (old new : Domain) : Prop :=
  new.key = old.key ∧ ∀ hostName ∈ old.subordinateHosts, hostName ∈ new.subordinateHosts

instance (d e : Domain) : Decidable (d.Continues e) :=
  inferInstanceAs (Decidable (_ ∧ ∀ hostName ∈ d.subordinateHosts.toList, hostName ∈ e.subordinateHosts.toList))

theorem Continues.refl (d : Domain) : d.Continues d := ⟨rfl, fun _ h => h⟩

theorem Continues.trans {d e f : Domain} (hde : d.Continues e) (hef : e.Continues f) : d.Continues f :=
  ⟨hef.1.trans hde.1, fun hostName h => hef.2 hostName (hde.2 hostName h)⟩

theorem continues_addSubordinate (d : Domain) (hostName : String) : d.Continues (d.addSubordinate hostName) :=
  ⟨rfl, fun _ h => SortedSet.mem_insert.2 (.inr h)⟩

theorem mem_addSubordinate (d : Domain) (hostName : String) : hostName ∈ (d.addSubordinate hostName).subordinateHosts :=
  SortedSet.mem_insert.2 (.inl rfl)

end Domain

namespace Store

/-- Distinct domain rows carry distinct keys. -/
def DistinctKeys (s : Store) : Prop := (s.domains.rows.map Domain.key).Nodup

instance (s : Store) : Decidable s.DistinctKeys := inferInstanceAs (Decidable (List.Nodup _))

/-- A key that is carried by a row is carried by no other. -/
theorem DistinctKeys.filter_eq {s : Store} (h : s.DistinctKeys) {domain : Domain} (hmem : domain ∈ s.domains.rows) :
    s.domains.rows.filter (fun d => d.key = domain.key) = [domain] :=
  Table.filter_eq_singleton_of_nodup h hmem

/-- A link goes to the row of its key alone. -/
theorem DistinctKeys.get?_linkHost {s : Store} (h : s.DistinctKeys) {name : String} {domain : Domain}
    (hfound : s.domains.get? name = some domain) (hostName k : String) :
    (s.apply (.linkHost domain.key hostName)).domains.get? k
      = if k = name then some (domain.addSubordinate hostName) else s.domains.get? k :=
  Table.lookup_updateFirstEntry_of_filter hfound (h.filter_eq (Table.mem_rows_of_get? hfound)) k

/-- No write changes the key of a domain. -/
theorem keys_apply (s : Store) (write : Write) :
    (s.apply write).domains.rows.map Domain.key = s.domains.rows.map Domain.key := by
  cases write with
  | linkHost key hostName =>
      exact s.domains.map_rows_updateFirst (fun d => d.key = key) (fun d => d.addSubordinate hostName) Domain.key
        fun _ => rfl
  | _ => rfl

theorem keys_applyAll (s : Store) (writes : List Write) :
    (s.applyAll writes).domains.rows.map Domain.key = s.domains.rows.map Domain.key := by
  induction writes generalizing s with
  | nil => rfl
  | cons write rest ih => exact (ih (s.apply write)).trans (s.keys_apply write)

/-- The row that a link with a key goes to: the first row that carries it. -/
def rowOf (s : Store) (key : DomainKey) : Option Domain := s.domains.rows.find? fun d => d.key = key

/-- A key that one row alone carries is the key of that row. -/
theorem rowOf_eq_some {s : Store} {key : DomainKey} {domain : Domain}
    (honly : s.domains.rows.filter (fun d => d.key = key) = [domain]) : s.rowOf key = some domain := by
  rw [rowOf, ← List.head?_filter, honly, List.head?_cons]

/-- Every row that is there has a key by which some row is found. -/
theorem isSome_rowOf {s : Store} {domain : Domain} (hmem : domain ∈ s.domains.rows) :
    (s.rowOf domain.key).isSome = true := by
  rw [rowOf, List.find?_isSome]
  exact ⟨domain, hmem, decide_eq_true rfl⟩

theorem rowOf_linkHost (s : Store) (key : DomainKey) (hostName : String) (k : DomainKey) :
    (s.apply (.linkHost key hostName)).rowOf k
      = (s.rowOf k).map fun d => if k = key then d.addSubordinate hostName else d := by
  by_cases hk : k = key
  · subst hk
    simp only [if_true]
    exact s.domains.find?_rows_updateFirst fun _ => rfl
  · simp only [if_neg hk, Option.map_id']
    refine s.domains.find?_rows_updateFirst_of_disjoint (fun _ => rfl) fun row hrow => ?_
    have hkey : row.key = key := of_decide_eq_true hrow
    exact decide_eq_false fun hsame => hk (hsame.symm.trans hkey)

/-- The row of each key is still there and has kept its hosts; only they may be more. -/
def KeepsRows (s t : Store) : Prop :=
  ∀ (key : DomainKey) (row : Domain), s.rowOf key = some row →
    ∃ kept, t.rowOf key = some kept ∧ kept.bare = row.bare ∧
      ∀ hostName ∈ row.subordinateHosts, hostName ∈ kept.subordinateHosts

theorem KeepsRows.refl (s : Store) : s.KeepsRows s := fun _ row h => ⟨row, h, rfl, fun _ h => h⟩

theorem KeepsRows.trans {s t u : Store} (hst : s.KeepsRows t) (htu : t.KeepsRows u) : s.KeepsRows u := by
  intro key row hrow
  obtain ⟨kept, hkept, hbare, hhosts⟩ := hst key row hrow
  obtain ⟨last, hlast, hbare', hhosts'⟩ := htu key kept hkept
  exact ⟨last, hlast, hbare'.trans hbare, fun hostName h => hhosts' hostName (hhosts hostName h)⟩

theorem keepsRows_apply (s : Store) (write : Write) : s.KeepsRows (s.apply write) := by
  cases write with
  | linkHost key hostName =>
      intro k row hrow
      have hlinked := s.rowOf_linkHost key hostName k
      rw [hrow, Option.map_some] at hlinked
      refine ⟨_, hlinked, ?_⟩
      split
      · exact ⟨row.bare_addSubordinate hostName, (row.continues_addSubordinate hostName).2⟩
      · exact ⟨rfl, fun _ h => h⟩
  | _ => exact KeepsRows.refl s

theorem keepsRows_applyAll (s : Store) (writes : List Write) : s.KeepsRows (s.applyAll writes) := by
  induction writes generalizing s with
  | nil => exact KeepsRows.refl s
  | cons write rest ih => exact (s.keepsRows_apply write).trans (ih (s.apply write))

/-- Every domain row of a store goes on in another under the same name. -/
def Keeps (s t : Store) : Prop :=
  ∀ (name : String) (domain : Domain), s.domains.get? name = some domain →
    ∃ kept, t.domains.get? name = some kept ∧ domain.Continues kept

theorem Keeps.refl (s : Store) : s.Keeps s := fun _ domain h => ⟨domain, h, .refl domain⟩

theorem Keeps.trans {s t u : Store} (hst : s.Keeps t) (htu : t.Keeps u) : s.Keeps u := by
  intro name domain hfound
  obtain ⟨kept, hkept, hcontinues⟩ := hst name domain hfound
  obtain ⟨last, hlast, hcontinues'⟩ := htu name kept hkept
  exact ⟨last, hlast, hcontinues.trans hcontinues'⟩

theorem keeps_apply (s : Store) (write : Write) : s.Keeps (s.apply write) := by
  cases write with
  | linkHost key hostName =>
      intro name domain hfound
      rcases Table.lookup_updateFirstEntry_cases (fun d => d.key = key) (fun d => d.addSubordinate hostName)
        s.domains.entries name with hsame | hlinked
      · exact ⟨domain, hsame.trans hfound, .refl domain⟩
      · refine ⟨domain.addSubordinate hostName, hlinked.trans ?_, domain.continues_addSubordinate hostName⟩
        exact congrArg (Option.map _) hfound
  | _ => exact Keeps.refl s

theorem keeps_applyAll (s : Store) (writes : List Write) : s.Keeps (s.applyAll writes) := by
  induction writes generalizing s with
  | nil => exact Keeps.refl s
  | cons write rest ih => exact (s.keeps_apply write).trans (ih (s.apply write))

/-- A row that is put over another of its name goes on from it. -/
def Respects (s : Store) : Edit → Prop
  | .putDomain domain => ∀ old ∈ s.domains.get? domain.name, old.Continues domain
  | _ => True

instance (s : Store) : (e : Edit) → Decidable (s.Respects e)
  | .putDomain domain => inferInstanceAs (Decidable (∀ old ∈ s.domains.get? domain.name, old.Continues domain))
  | .addZone _ => inferInstanceAs (Decidable True)
  | .putHost _ => inferInstanceAs (Decidable True)

theorem keeps_edit {s : Store} {e : Edit} (h : s.Respects e) : s.Keeps (s.edit e) := by
  cases e with
  | addZone zone => exact Keeps.refl s
  | putHost host => exact Keeps.refl s
  | putDomain domain =>
      intro name old hold
      rw [edit, get?_domains_putDomain]
      by_cases hname : name = domain.name
      · rw [if_pos hname]
        exact ⟨domain, rfl, h old (hname ▸ hold)⟩
      · rw [if_neg hname]
        exact ⟨old, hold, .refl old⟩

end Store

end Bailiwick
