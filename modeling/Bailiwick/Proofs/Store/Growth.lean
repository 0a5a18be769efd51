import Bailiwick.World

/-!
What every change leaves of a store. Host rows are only ever appended, versions only count up, and a key
whose version did not move carries what it carried before: the same rows for a host name, and for a
domain name the same row up to the names of its hosts, which may gain members without a new version.
Domain rows that stand under their own names go on doing so.
-/

namespace Bailiwick

/-- A domain row without the names of its hosts. -/
def Domain.bare (d : Domain) : Domain := { d with subordinateHosts := .empty }

@[simp] theorem Domain.bare_addSubordinate (d : Domain) (hostName : String) :
    (d.addSubordinate hostName).bare = d.bare := rfl

/-- Rows that agree but for the names of their hosts are active at the same times. -/
theorem Domain.isActiveAt_of_bare {d e : Domain} (h : d.bare = e.bare) (now : Instant) :
    d.isActiveAt now = e.isActiveAt now := by
  have hdeletion : d.bare.deletionTime = e.bare.deletionTime := by rw [h]
  exact congrArg (fun time : Option Instant => time.all (now < ·)) hdeletion

namespace Table

theorem lookup_updateFirstEntry {ρ σ : Type} (p : ρ → Bool) (f : ρ → ρ) (g : ρ → σ)
    (hg : ∀ row, g (f row) = g row) (key : String) (entries : List (String × ρ)) :
    ((updateFirstEntry p f entries).lookup key).map g = (entries.lookup key).map g := by
  induction entries with
  | nil => rfl
  | cons entry rest ih =>
      obtain ⟨k, row⟩ := entry
      simp only [updateFirstEntry]
      split
      · by_cases hk : key = k
        · subst hk
          simp [hg]
        · simp [List.lookup_cons, beq_false_of_ne hk]
      · by_cases hk : key = k
        · subst hk
          simp
        · simp [List.lookup_cons, beq_false_of_ne hk, ih]

/-- What a change of one row does not touch, no look-up finds changed. -/
theorem map_get?_updateFirst {ρ σ : Type} (t : Table ρ) (p : ρ → Bool) (f : ρ → ρ) (g : ρ → σ)
    (hg : ∀ row, g (f row) = g row) (key : String) :
    ((t.updateFirst p f).get? key).map g = (t.get? key).map g :=
  lookup_updateFirstEntry p f g hg key t.entries

/-- Where no row satisfies the condition nothing is changed. -/
theorem updateFirst_of_any_eq_false {ρ : Type} (t : Table ρ) (p : ρ → Bool) (f : ρ → ρ)
    (h : t.any p = false) : t.updateFirst p f = t := by
  obtain ⟨entries⟩ := t
  suffices hentries : updateFirstEntry p f entries = entries by
    simp only [updateFirst, hentries]
  induction entries with
  | nil => rfl
  | cons entry rest ih =>
      simp only [any, List.any_cons, Bool.or_eq_false_iff] at h
      simp only [updateFirstEntry, h.1, Bool.false_eq_true, if_false, ih h.2]

end Table

namespace Store

theorem get?_bump (versions : Table Nat) (key k : String) :
    ((bump versions key).get? k).getD 0
      = (versions.get? k).getD 0 + if k = key then 1 else 0 := by
  rw [bump, Table.get?_alter]
  by_cases h : k = key
  · simp [h]
  · simp [h]

theorem hostsNamed_putHost (s : Store) (host : Host) (name : String) :
    (s.putHost host).hostsNamed name
      = s.hostsNamed name ++ if name = host.name.text then [host] else [] := by
  simp only [putHost, hostsNamed, Table.get?_alter]
  by_cases h : name = host.name.text
  · simp [h]
  · simp [h]

theorem hostVersion_putHost (s : Store) (host : Host) (name : String) :
    (s.putHost host).hostVersion name
      = s.hostVersion name + if name = host.name.text then 1 else 0 :=
  get?_bump s.hostVersions host.name.text name

theorem domainVersion_putDomain (s : Store) (domain : Domain) (name : String) :
    (s.putDomain domain).domainVersion name
      = s.domainVersion name + if name = domain.name then 1 else 0 :=
  get?_bump s.domainVersions domain.name name

theorem get?_domains_putDomain (s : Store) (domain : Domain) (name : String) :
    (s.putDomain domain).domains.get? name
      = if name = domain.name then some domain else s.domains.get? name := by
  simp only [putDomain, Table.put, Table.get?_alter]

/-- Every domain row stands under its own name. -/
def Orderly (s : Store) : Prop :=
  ∀ (name : String) (domain : Domain), s.domains.get? name = some domain → domain.name = name

/-- In an orderly store the domain found under a name has that name. -/
theorem Orderly.name_of_activeDomain {s : Store} (h : s.Orderly) {name : String} {now : Instant}
    {domain : Domain} (hfound : s.activeDomain name now = some domain) : domain.name = name :=
  h name domain (Option.filter_eq_some_iff.1 hfound).1

theorem orderly_putDomain {s : Store} (h : s.Orderly) (domain : Domain) : (s.putDomain domain).Orderly := by
  intro name found hfound
  rw [get?_domains_putDomain] at hfound
  split at hfound
  · next hname =>
      obtain rfl := Option.some.inj hfound
      exact hname.symm
  · exact h name found hfound

theorem orderly_linkHost {s : Store} (h : s.Orderly) (key : DomainKey) (hostName : String) :
    (s.apply (.linkHost key hostName)).Orderly := by
  intro name found hfound
  have hname := s.domains.map_get?_updateFirst (fun d => d.key = key) (fun d => d.addSubordinate hostName)
    Domain.name (fun _ => rfl) name
  change (s.domains.updateFirst _ _).get? name = some found at hfound
  rw [hfound] at hname
  obtain ⟨before, hbefore, heq⟩ := Option.map_eq_some_iff.1 hname.symm
  rw [← heq]
  exact h name before hbefore

/-- A store that may follow another. -/
structure Later (s t : Store) : Prop where
  hosts (name : String) : s.hostsNamed name <+: t.hostsNamed name
  version_le (key : ReadKey) : s.version key ≤ t.version key
  hosts_eq (name : String) : t.hostVersion name = s.hostVersion name → t.hostsNamed name = s.hostsNamed name
  domain_eq (name : String) : t.domainVersion name = s.domainVersion name →
    (t.domains.get? name).map Domain.bare = (s.domains.get? name).map Domain.bare
  zones (zone : String) : s.isManaged zone → t.isManaged zone
  history : s.history <+: t.history
  orderly : s.Orderly → t.Orderly

namespace Later

theorem refl (s : Store) : s.Later s where
  hosts _ := List.prefix_rfl
  version_le _ := Nat.le_refl _
  hosts_eq _ _ := rfl
  domain_eq _ _ := rfl
  zones _ h := h
  history := List.prefix_rfl
  orderly h := h

/-- Versions cannot return to a value once they have left it, so what an unchanged version says of two
stores it says of every store between them. -/
theorem trans {s t u : Store} (hst : s.Later t) (htu : t.Later u) : s.Later u where
  hosts name := (hst.hosts name).trans (htu.hosts name)
  version_le key := Nat.le_trans (hst.version_le key) (htu.version_le key)
  hosts_eq name h := by
    have hfirst : s.hostVersion name ≤ t.hostVersion name := hst.version_le (.host name)
    have hsecond : t.hostVersion name ≤ u.hostVersion name := htu.version_le (.host name)
    rw [htu.hosts_eq name (by omega), hst.hosts_eq name (by omega)]
  domain_eq name h := by
    have hfirst : s.domainVersion name ≤ t.domainVersion name := hst.version_le (.domain name)
    have hsecond : t.domainVersion name ≤ u.domainVersion name := htu.version_le (.domain name)
    rw [htu.domain_eq name (by omega), hst.domain_eq name (by omega)]
  zones zone h := htu.zones zone (hst.zones zone h)
  history := hst.history.trans htu.history
  orderly h := htu.orderly (hst.orderly h)

end Later

theorem later_addZone (s : Store) (zone : String) : s.Later (s.addZone zone) :=
  { Later.refl s with
    zones := fun z h => by
      simp only [isManaged, addZone, SortedSet.mem_insert, decide_eq_true_eq] at h ⊢
      exact Or.inr h }

theorem later_putDomain (s : Store) (domain : Domain) : s.Later (s.putDomain domain) where
  hosts _ := List.prefix_rfl
  version_le
    | .host _ => Nat.le_refl _
    | .domain name => by
        rw [version, version, domainVersion_putDomain]
        exact Nat.le_add_right _ _
  hosts_eq _ _ := rfl
  domain_eq name h := by
    rw [domainVersion_putDomain] at h
    have hne : name ≠ domain.name := by
      intro heq
      rw [if_pos heq] at h
      omega
    rw [get?_domains_putDomain, if_neg hne]
  zones _ h := h
  history := List.prefix_rfl
  orderly h := orderly_putDomain h domain

theorem later_putHost (s : Store) (host : Host) : s.Later (s.putHost host) where
  hosts name := by
    rw [hostsNamed_putHost]
    exact List.prefix_append _ _
  version_le
    | .host name => by
        rw [version, version, hostVersion_putHost]
        exact Nat.le_add_right _ _
    | .domain _ => Nat.le_refl _
  hosts_eq name h := by
    rw [hostVersion_putHost] at h
    have hne : name ≠ host.name.text := by
      intro heq
      rw [if_pos heq] at h
      omega
    rw [hostsNamed_putHost, if_neg hne, List.append_nil]
  domain_eq _ _ := rfl
  zones _ h := h
  history := List.prefix_rfl
  orderly h := h

theorem later_edit (s : Store) (e : Edit) : s.Later (s.edit e) := by
  cases e with
  | addZone zone => exact s.later_addZone zone
  | putDomain domain => exact s.later_putDomain domain
  | putHost host => exact s.later_putHost host

theorem later_apply (s : Store) (write : Write) : s.Later (s.apply write) := by
  cases write with
  | insertHost host => exact s.later_putHost host
  | appendHistory entry => exact { Later.refl s with history := List.prefix_append _ _ }
  | linkHost key hostName =>
      refine { Later.refl s with
        domain_eq := fun name _ => ?_
        orderly := fun h => orderly_linkHost h key hostName }
      exact Table.map_get?_updateFirst s.domains (fun d => d.key = key) (fun d => d.addSubordinate hostName)
        Domain.bare (fun d => d.bare_addSubordinate hostName) name
  | insertBilling event => exact { Later.refl s with }

theorem later_applyAll (s : Store) (writes : List Write) : s.Later (s.applyAll writes) := by
  induction writes generalizing s with
  | nil => exact Later.refl s
  | cons write rest ih => exact (s.later_apply write).trans (ih (s.apply write))

theorem zones_apply (s : Store) (write : Write) : (s.apply write).zones = s.zones := by
  cases write <;> rfl

/-- No write changes the managed zones. -/
theorem zones_applyAll (s : Store) (writes : List Write) : (s.applyAll writes).zones = s.zones := by
  induction writes generalizing s with
  | nil => rfl
  | cons write rest ih => exact (ih (s.apply write)).trans (s.zones_apply write)

end Store

end Bailiwick
