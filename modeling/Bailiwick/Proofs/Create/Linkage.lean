import Bailiwick.Proofs.Create.Superordinate
import Bailiwick.Proofs.HostName.Suffixes
import Bailiwick.Proofs.RunStores

/-!
References between hosts and domains. A created host names its domain by a key and the domain lists the host by its
name, as long as rows put over a domain go on from it. The commit that writes the reference finds the domain.
-/

namespace Bailiwick

/-- What a host says about its domain is borne out by a store: the only row with the key lists the host, and the
host has at least one label in front of its name. A host without a domain has no addresses. -/
def Store.Links (s : Store) (host : Host) : Prop :=
  match host.superordinate with
  | none => host.addresses = []
  | some key => host.addresses ≠ [] ∧ ∃ domain, s.domains.rows.filter (fun d => d.key = key) = [domain] ∧
      host.name.text ∈ domain.subordinateHosts ∧
      ∃ front, front ≠ [] ∧ host.name.labels = front ++ HostName.labelsOf domain.name

/-- A name has labels in front of a suffix with fewer of them. -/
theorem HostName.exists_front {name : HostName} {count : Nat} (hpos : 0 < count) (hlt : count < name.labelCount) :
    ∃ front, front ≠ [] ∧ name.labels = front ++ labelsOf (name.suffix count) := by
  refine ⟨name.labels.take (name.labelCount - count), fun hnil => ?_, ?_⟩
  · have hlabels : name.labels.length = name.labelCount := List.length_map _
    have hlength := congrArg List.length hnil
    rw [List.length_take, hlabels, List.length_nil] at hlength
    omega
  · rw [labelsOf_suffix hpos (Nat.le_of_lt hlt), List.take_append_drop]

namespace Create

variable {s final : Store} {instant : Instant} {created : Created} {zone : Option String}

/-- The link of a host goes to a domain that is there. -/
theorem Belongs.missingLinks_eq_nil (h : Belongs s instant created.host zone) :
    s.missingLinks created.writes = [] := by
  cases h with
  | external hkey haddresses => simp [Store.missingLinks, Created.writes, hkey]
  | @subordinate _ domain hdeep hfound halive hkey haddresses =>
      have hget := (Option.filter_eq_some_iff.1 hfound).1
      have hthere : s.domains.any (fun d => d.key = domain.key) = true := by
        obtain ⟨entry, hentry, hrow⟩ := List.mem_map.1 (Table.mem_rows_of_get? hget)
        exact List.any_eq_true.2 ⟨entry, hentry, by simp [hrow]⟩
      simp [Store.missingLinks, Created.writes, hkey, hthere]

/-- A host that belongs somewhere at its commit is linked in every store that keeps the domains from then on. -/
theorem Belongs.links (hs : s.Orderly) (hkeys : s.DistinctKeys) (h : Belongs s instant created.host zone)
    (hkept : (s.applyAll created.writes).Keeps final) (hfinal : final.Orderly) (hfinalKeys : final.DistinctKeys) :
    final.Links created.host := by
  cases zone with
  | none =>
      cases h with
      | external hkey haddresses =>
          rw [Store.Links, hkey]
          exact haddresses
  | some zone =>
      obtain ⟨domain, -, hkey, -, -, hname, hlinked⟩ := h.get?_applyAll hkeys hs
      have hgained := hlinked domain.name
      rw [if_pos rfl] at hgained
      obtain ⟨kept, hget, hkeptKey, hhosts⟩ := hkept _ _ hgained
      cases h with
      | subordinate hdeep _ _ _ haddresses =>
          rw [Store.Links, hkey]
          refine ⟨haddresses, kept, ?_, ?_, ?_⟩
          · have honly := hfinalKeys.filter_eq (Table.mem_rows_of_get? hget)
            rw [hkeptKey] at honly
            exact honly
          · exact hhosts _ (domain.mem_addSubordinate created.host.name.text)
          · rw [hfinal _ _ hget, hname]
            exact HostName.exists_front (Nat.succ_pos _) hdeep

/-- In every run of creates, edits and turns in any order, where distinct domains carry distinct keys and every row
put over a domain keeps its key and its hosts: whatever host a create has committed is still stored and linked to
its domain, and the commit found the domain. -/
theorem createHost_linked {w : World} (hbuilt : w.store.Built) {acts : List Act}
    (hkeys : ∀ s ∈ (opened w).stores (moves acts), s.DistinctKeys)
    (hkept : ∀ s e, (s, e) ∈ (opened w).edits (moves acts) → s.Respects e) {number : Nat} {turn : Turn}
    (hturn : (number, turn) ∈ (opened w).commits (moves acts)) :
    let final := ((opened w).play (moves acts)).world.store
    ∃ host, turn.hosts = [host] ∧ host ∈ final.hostsNamed host.name.text ∧ final.Links host ∧
      turn.world.store.missingLinks turn.writes = [] := by
  intro final
  obtain ⟨q, zone, created, -, -, hwrites, horderly, hbelongs, -⟩ := exists_belongs hbuilt.orderly hturn
  have hmem := (Registry.mem_commits.1 hturn).1
  have hlater : turn.after.store.Later final := Registry.later_of_mem_turns hmem
  have hkeeps : turn.after.store.Keeps final := by
    refine Registry.rel_play_of_mem_turns Store.Keeps.refl Store.Keeps.trans (fun t => ?_)
      (fun s e h => Store.keeps_edit (hkept s e h)) hmem
    rw [t.store_after]
    exact Store.keeps_applyAll _ _
  have hfinal : final.Orderly :=
    hlater.orderly ((turn.world.later_perform turn.surroundings turn.op).orderly horderly)
  rw [turn.store_after, hwrites] at hlater hkeeps
  refine ⟨created.host, hosts_eq_of_writes_eq hwrites, ?_, ?_, ?_⟩
  · exact (hlater.hosts created.host.name.text).subset (mem_hostsNamed_writes turn.world.store created)
  · have hkeysThen := hkeys _ (Registry.mem_stores_of_mem_turns hmem)
    exact hbelongs.links horderly hkeysThen hkeeps hfinal (hkeys _ (Registry.play_mem_stores _ _))
  · rw [hwrites]
    exact hbelongs.missingLinks_eq_nil

/-- The domain enters pending delete once it has gained its host. -/
def purging : List Act :=
  racing ++ [.edit (.putDomain (((Domain.new ⟨.ofNat 7⟩ "example.tld" ⟨"NewRegistrar"⟩ .epoch).addSubordinate
    "ns1.example.tld").withPendingDelete .epoch))]

theorem createHost_linked_purging :
    delegated.Built ∧ (∀ s ∈ (opened { store := delegated }).stores (moves purging), s.DistinctKeys) ∧
      (∀ s e, (s, e) ∈ (opened { store := delegated }).edits (moves purging) → s.Respects e) ∧
      ∃ turn host, (0, turn) ∈ (opened { store := delegated }).commits (moves purging) ∧ turn.hosts = [host] ∧
        host.superordinate = some ⟨.ofNat 7⟩ ∧
        ((opened { store := delegated }).play (moves purging)).world.store.Links host := by
  have hkeys : ∀ s ∈ (opened { store := delegated }).stores (moves purging), s.DistinctKeys := by
    decide +kernel
  have hkept : ∀ edit ∈ (opened { store := delegated }).edits (moves purging), edit.1.Respects edit.2 := by
    decide +kernel
  have hkept' (s : Store) (e : Store.Edit) (h : (s, e) ∈ (opened { store := delegated }).edits (moves purging)) :
      s.Respects e := hkept _ h
  have hrun : ∃ step ∈ (opened { store := delegated }).commits (moves purging), step.1 = 0 ∧
      step.2.hosts.map Host.superordinate = [some ⟨.ofNat 7⟩] := by
    decide +kernel
  obtain ⟨⟨_, turn⟩, hturn, rfl, hkey⟩ := hrun
  obtain ⟨host, hhost, -, hlinks, -⟩ := createHost_linked built_delegated hkeys hkept' hturn
  rw [hhost] at hkey
  exact ⟨built_delegated, hkeys, hkept', turn, host, hturn, hhost, List.head_eq_of_cons_eq hkey, hlinks⟩

end Create

end Bailiwick
