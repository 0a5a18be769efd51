import Bailiwick.Proofs.EditsAndTurns
import Bailiwick.Proofs.Records
import Bailiwick.Proofs.SortedSet
import Bailiwick.Proofs.Transaction.Validation

/-!
Writes in another order. What writes do to one part of a store depends on those of them alone that go there. Hosts
are linked to domains in any order: a link finds its row by a key, which no link changes, and the names of the hosts
under a domain are a set. Host rows of different names stand in different lists. So the order of writes shows in the
history alone, and other identifiers in place of those of the rows show in these rows alone.
-/

namespace Bailiwick

theorem Domain.addSubordinate_comm (d : Domain) (a b : String) :
    (d.addSubordinate a).addSubordinate b = (d.addSubordinate b).addSubordinate a :=
  congrArg (fun hosts => { d with subordinateHosts := hosts }) (d.subordinateHosts.insert_comm a b)

namespace Table

variable {ρ : Type}

/-- Two changes of rows may change places where neither touches the condition of the other. -/
theorem updateFirst_comm (t : Table ρ) {p q : ρ → Bool} {f g : ρ → ρ} (hp : ∀ row, p (g row) = p row)
    (hq : ∀ row, q (f row) = q row) (hfg : ∀ row, g (f row) = f (g row)) :
    (t.updateFirst p f).updateFirst q g = (t.updateFirst q g).updateFirst p f := by
  obtain ⟨entries⟩ := t
  suffices hentries : updateFirstEntry q g (updateFirstEntry p f entries)
      = updateFirstEntry p f (updateFirstEntry q g entries) by
    simp only [updateFirst, hentries]
  induction entries with
  | nil => rfl
  | cons entry rest ih =>
      obtain ⟨k, row⟩ := entry
      by_cases hrow : p row = true
      · by_cases hrow' : q row = true
        · simp only [updateFirstEntry, hrow, hrow', hp, hq, hfg, if_true]
        · simp only [updateFirstEntry, hrow, hrow', hq, if_true, if_false, Bool.false_eq_true]
      · by_cases hrow' : q row = true
        · simp only [updateFirstEntry, hrow, hrow', hp, if_true, if_false, Bool.false_eq_true]
        · simp only [updateFirstEntry, hrow, hrow', ih, if_false, Bool.false_eq_true]

/-- Of rows that differ in a property, those with one value are the same in whatever order the rows stand. -/
theorem filter_eq_of_perm {κ : Type} [DecidableEq κ] {g : ρ → κ} {rows rows' : List ρ} (h : rows.Perm rows')
    (hrows : (rows.map g).Nodup) (value : κ) :
    rows.filter (fun r => g r = value) = rows'.filter (fun r => g r = value) := by
  have hrows' : (rows'.map g).Nodup := (h.map g).nodup_iff.1 hrows
  by_cases hvalue : ∃ row ∈ rows, g row = value
  · obtain ⟨row, hrow, rfl⟩ := hvalue
    rw [filter_eq_singleton_of_nodup hrows hrow, filter_eq_singleton_of_nodup hrows' (h.mem_iff.1 hrow)]
  · have hnone : rows.filter (fun r => g r = value) = [] :=
      List.filter_eq_nil_iff.2 fun row hrow hsame => hvalue ⟨row, hrow, of_decide_eq_true hsame⟩
    have hnone' := h.filter fun r => g r = value
    rw [hnone] at hnone' ⊢
    exact hnone'.nil_eq

end Table

/-- A host row but for its identifier. -/
def Host.unkeyed (h : Host) : Host := { h with key := ⟨.ofNat 0⟩ }

/-- An entry of the history but for its identifier and that of its host. -/
def HistoryEntry.unkeyed (e : HistoryEntry) : HistoryEntry := { e with entryId := .ofNat 0, hostKey := ⟨.ofNat 0⟩ }

namespace Store

/-- A write but for the identifiers of the row that it stores. -/
def Write.unkeyed : Write → Write
  | .insertHost host => .insertHost host.unkeyed
  | .appendHistory entry => .appendHistory entry.unkeyed
  | .linkHost key hostName => .linkHost key hostName
  | .insertBilling event => .insertBilling event

/-- The links that a write makes. -/
def Write.links : Write → List (DomainKey × String)
  | .linkHost key hostName => [(key, hostName)]
  | _ => []

/-- A host name is added to those under the domain with a key. -/
def link (domains : Table Domain) (l : DomainKey × String) : Table Domain :=
  domains.updateFirst (fun d => d.key = l.1) fun d => d.addSubordinate l.2

theorem domains_applyAll (s : Store) (writes : List Write) :
    (s.applyAll writes).domains = (writes.flatMap Write.links).foldl link s.domains := by
  induction writes generalizing s with
  | nil => rfl
  | cons write rest ih =>
      rw [List.flatMap_cons, List.foldl_append]
      have hfirst : (s.apply write).domains = write.links.foldl link s.domains := by
        cases write <;> rfl
      rw [← hfirst]
      exact ih (s.apply write)

theorem link_comm (domains : Table Domain) (l l' : DomainKey × String) :
    link (link domains l) l' = link (link domains l') l :=
  domains.updateFirst_comm (fun _ => rfl) (fun _ => rfl) fun d => d.addSubordinate_comm l.2 l'.2

/-- It does not matter in what order hosts are linked to domains. -/
theorem foldl_link_perm {links links' : List (DomainKey × String)} (h : links.Perm links') (domains : Table Domain) :
    links.foldl link domains = links'.foldl link domains :=
  h.foldl_eq' (fun l _ l' _ domains => link_comm domains l l') domains

/-- The rows that writes store under a name are those of all their rows that have the name. -/
theorem hostsAmong_eq_filter (writes : List Write) (name : String) :
    hostsAmong writes name = (writes.flatMap Write.hosts).filter fun host => host.name.text = name := by
  induction writes with
  | nil => rfl
  | cons write rest ih =>
      rw [List.flatMap_cons, List.filter_append, ← ih]
      cases write with
      | insertHost host =>
          by_cases hname : host.name.text = name
          · simp [hostsAmong, Write.hosts, hname]
          · simp [hostsAmong, Write.hosts, hname, Ne.symm hname]
      | _ => rfl

/-- Two stores that have grown out of one by the same writes in some order, with identifiers of their own. -/
structure GrownAlike (s t t' : Store) : Prop where
  hosts (name : String) : ∃ rows rows', t.hostsNamed name = s.hostsNamed name ++ rows ∧
    t'.hostsNamed name = s.hostsNamed name ++ rows' ∧ rows.map Host.unkeyed = rows'.map Host.unkeyed
  versions (key : ReadKey) : t.version key = t'.version key
  domains : t.domains = t'.domains
  zones : t.zones = t'.zones
  billing : t.billing = t'.billing
  history : ∃ entries entries', t.history = s.history ++ entries ∧ t'.history = s.history ++ entries' ∧
    (entries.map HistoryEntry.unkeyed).Perm (entries'.map HistoryEntry.unkeyed)

variable {writes writes' : List Write}

/-- What writes add to a part of a store they add in any order, and where identifiers do not count with any. -/
theorem perm_added {β γ : Type} (h : (writes.map Write.unkeyed).Perm (writes'.map Write.unkeyed))
    (added : Write → List β) (blank : β → γ)
    (hblank : ∀ write, (added write.unkeyed).map blank = (added write).map blank) :
    ((writes.flatMap added).map blank).Perm ((writes'.flatMap added).map blank) := by
  have hshape (l : List Write) :
      (l.flatMap added).map blank = (l.map Write.unkeyed).flatMap fun write => (added write).map blank := by
    rw [List.map_flatMap, List.flatMap_map]
    simp only [hblank]
  rw [hshape, hshape]
  exact h.flatMap_right _

/-- Writes that store no two rows of one name and charge nobody lead to the same store in any order. -/
theorem grownAlike_applyAll (s : Store) (h : (writes.map Write.unkeyed).Perm (writes'.map Write.unkeyed))
    (hnames : ((writes.flatMap Write.hosts).map fun host => host.name.text).Nodup)
    (hcharges : writes.flatMap Write.charges = []) : s.GrownAlike (s.applyAll writes) (s.applyAll writes') where
  hosts name := by
    refine ⟨_, _, s.hostsNamed_applyAll writes name, s.hostsNamed_applyAll writes' name, ?_⟩
    have hrows := perm_added h Write.hosts Host.unkeyed fun write => by cases write <;> rfl
    have hsame := Table.filter_eq_of_perm (g := fun host : Host => host.name.text) hrows (by rwa [List.map_map]) name
    rw [hostsAmong_eq_filter, hostsAmong_eq_filter]
    rw [List.filter_map, List.filter_map] at hsame
    exact hsame
  versions key := by
    have hbumps := perm_added h (fun write => write.bump?.toList) id fun write => by cases write <;> rfl
    rw [List.map_id, List.map_id] at hbumps
    rw [s.version_applyAll, s.version_applyAll, List.filterMap_eq_flatMap_toList, List.filterMap_eq_flatMap_toList,
      hbumps.count_eq]
  domains := by
    have hlinks := perm_added h Write.links id fun write => by cases write <;> rfl
    rw [List.map_id, List.map_id] at hlinks
    rw [s.domains_applyAll, s.domains_applyAll, foldl_link_perm hlinks]
  zones := by rw [s.zones_applyAll, s.zones_applyAll]
  billing := by
    have hcharges' := perm_added h Write.charges id fun write => by cases write <;> rfl
    rw [List.map_id, List.map_id, hcharges] at hcharges'
    rw [record_applyAll billing_apply, record_applyAll billing_apply, hcharges, ← hcharges'.nil_eq]
  history := by
    refine ⟨_, _, record_applyAll history_apply s writes, record_applyAll history_apply s writes', ?_⟩
    exact perm_added h Write.entries HistoryEntry.unkeyed fun write => by cases write <;> rfl

end Store

end Bailiwick
