import Bailiwick.Proofs.Create.Replay
import Bailiwick.Proofs.Store.Keys

/-!
The domain that a committed host belongs to. The look-up before the transaction may have met an older row; the
commit has read the row of the same name on the very store that it changes. Hence only a domain that is active and
not in pending delete gains a host by a create, and where keys are distinct it is that row which gains it.
-/

namespace Bailiwick

/-- The addresses that a host may have are none where it is external, and some where it is subordinate. -/
theorem Placement.isEmpty_of_resolveAddresses {placement : Placement} {declared : List DeclaredAddress}
    {addresses : List IpAddress} (h : placement.resolveAddresses declared = .ok addresses) :
    addresses.isEmpty = !placement.isSubordinate := by
  rw [resolveAddresses] at h
  cases hread : DeclaredAddress.parseAll declared with
  | error refusal =>
      rw [hread] at h
      cases h
  | ok found =>
      rw [hread] at h
      cases placement with
      | external =>
          cases found with
          | nil => rw [← Except.ok.inj h]; rfl
          | cons first rest => cases h
      | subordinate domain =>
          cases found with
          | nil => cases h
          | cons first rest => rw [← Except.ok.inj h]; rfl

/-- A name that is deep enough has more labels than the domain above it. -/
theorem HostName.lt_labelCount_of_checkDepth {name : HostName} {publicSuffix : Option String} {zone : String}
    (h : name.checkDepth publicSuffix (some zone) = .ok ()) : countLabels zone + 1 < name.labelCount := by
  rw [checkDepth] at h
  split at h
  · cases h
  · next hdeep =>
      simp only [effectiveSuffixLabels, minLabelsBelowSuffix, Option.map_some, Option.getD_some] at hdeep
      omega

namespace Create

variable {c : Company} {q : Request} {u w : World} {turn : Turn} {client : ClientId} {name : HostName}
  {zone : Option String} {placement : Placement} {addresses : List IpAddress} {attempt : Nat} {created : Created}
  {s : Store} {instant : Instant} {acts : List Act} {number : Nat}

/-- Where a host belongs on one store, given the managed zone of its name: to none, or to the domain of the zone
above the host, which is active at a time and not in pending delete. -/
inductive Belongs (s : Store) (instant : Instant) (host : Host) : Option String → Prop where
  | external (hkey : host.superordinate = none) (haddresses : host.addresses = []) : Belongs s instant host none
  | subordinate {zone : String} {domain : Domain}
      (hdeep : HostName.countLabels zone + 1 < host.name.labelCount)
      (hfound : s.activeDomain (superordinateName host.name zone) instant = some domain)
      (halive : domain.isPendingDelete = false) (hkey : host.superordinate = some domain.key)
      (haddresses : host.addresses ≠ []) : Belongs s instant host (some zone)

theorem Makes.name_eq (h : Makes c q u turn client name zone placement addresses attempt created) :
    created.host.name = name := by
  obtain ⟨-, key, -, hcreated⟩ := decideOn_eq_ok h.decide_eq
  rw [hcreated]
  rfl

/-- A host is placed under no other domain than the one that is named for its zone. -/
theorem Sited.superordinate?_eq {v : World} (h : Sited c q u v client name zone placement) (hc : c.Grows)
    (hu : u.store.Orderly) : placement.superordinate?.map Domain.name = zone.map (superordinateName name) := by
  have hplaced := h.placed
  cases hplaced with
  | external => rfl
  | subordinate hmet =>
      obtain ⟨moment, hmoment, -, hfound⟩ := hmet
      exact congrArg some (((hc hmoment).orderly hu).name_of_activeDomain hfound)

/-- A committed host belongs where the search for its zone has put it. -/
theorem Makes.belongs (hc : c.Grows) (hu : u.store.Orderly)
    (h : Makes c q u turn client name zone placement addresses attempt created) :
    Belongs turn.world.store q.context.now created.host zone := by
  obtain ⟨-, key, hkey, hcreated⟩ := decideOn_eq_ok h.decide_eq
  have haddresses : created.host.addresses = addresses := by rw [hcreated]; rfl
  have hsuperordinate : created.host.superordinate = key := by rw [hcreated]; rfl
  have hplaced := h.placed
  have hempty := Placement.isEmpty_of_resolveAddresses h.resolve_eq
  rw [← haddresses] at hempty
  cases hplaced with
  | external =>
      refine .external ?_ (List.isEmpty_iff.1 hempty)
      exact hsuperordinate.trans (Except.ok.inj hkey).symm
  | @subordinate z domain hmet =>
      -- The row met before the transaction only lends its name to the look-up in the transaction.
      obtain ⟨moment, hmoment, -, hfound⟩ := hmet
      have hname : domain.name = superordinateName name z :=
        ((hc hmoment).orderly hu).name_of_activeDomain hfound
      simp only [Placement.superordinate?, Option.map_some, hname] at hkey
      obtain ⟨present, hpresent, halive, rfl⟩ := superordinateOn_eq_ok hkey
      rw [← h.name_eq] at hpresent
      refine .subordinate ?_ hpresent halive hsuperordinate (List.isEmpty_eq_false_iff.1 hempty)
      rw [h.name_eq]
      exact HostName.lt_labelCount_of_checkDepth h.depth_eq

/-- The zone by which a host was placed is above its name, and still managed at the commit. -/
theorem Makes.managed (hc : c.Grows) (h : Makes c q u turn client name zone placement addresses attempt created)
    {z : String} (hzone : zone = some z) : z ∈ name.properSuffixes ∧ turn.world.store.isManaged z = true := by
  subst hzone
  obtain ⟨hmem, moment, -, hlast, hmanaged⟩ := h.scanned.mem_and_seen
  exact ⟨hmem, (hc hlast).zones z hmanaged⟩

/-- Every commit of a run of creates stores a host that was asked for by its name, and that belongs to the domain
which the commit has read, one label below a managed zone, or to none. -/
theorem exists_belongs (hw : w.store.Orderly) (h : (number, turn) ∈ (opened w).commits (moves acts)) :
    ∃ (q : Request) (zone : Option String) (created : Created), (requested acts)[number]? = some q ∧
      HostName.parse q.command.hostName = .ok created.host.name ∧ turn.writes = created.writes ∧
      turn.world.store.Orderly ∧ Belongs turn.world.store q.context.now created.host zone ∧
      ∀ z, zone = some z → z ∈ created.host.name.properSuffixes ∧ turn.world.store.isManaged z = true := by
  obtain ⟨q, u, client, name, zone, placement, addresses, attempt, created, hq, hu, hmakes, -⟩ :=
    makes_of_mem_commits Company.anyone_grows ⟨.calm, trivial⟩ (anyone_admits acts) h
  have hu' : u.store.Orderly := hu.orderly hw
  obtain ⟨moment, hmoment, hlast, -⟩ := hmakes.free
  have hturn : turn.world.store.Orderly := (hmoment.trans hlast).orderly hu'
  refine ⟨q, zone, created, hq, ?_, hmakes.writes_eq, hturn, hmakes.belongs Company.anyone_grows hu', ?_⟩
  · rw [hmakes.name_eq]
    exact hmakes.parse_eq
  · rw [hmakes.name_eq]
    exact fun z hzone => hmakes.managed Company.anyone_grows hzone

/-- Of all the domains a create changes the one that it links its host to. -/
theorem domains_applyAll_writes (s : Store) (created : Created) :
    (s.applyAll created.writes).domains = match created.host.superordinate with
      | none => s.domains
      | some key => (s.apply (.linkHost key created.host.name.text)).domains := by
  rw [Created.writes]
  cases created.host.superordinate with
  | none => rfl
  | some key => rfl

/-- Where keys are distinct a host is merged into the row that it belongs to. -/
theorem Belongs.get?_applyAll {zone : String} (hkeys : s.DistinctKeys) (hs : s.Orderly)
    (h : Belongs s instant created.host (some zone)) :
    ∃ domain, s.domains.get? domain.name = some domain ∧ created.host.superordinate = some domain.key ∧
      domain.isActiveAt instant = true ∧ domain.isPendingDelete = false ∧
      domain.name = superordinateName created.host.name zone ∧
      ∀ k, (s.applyAll created.writes).domains.get? k
        = if k = domain.name then some (domain.addSubordinate created.host.name.text) else s.domains.get? k := by
  cases h with
  | @subordinate _ domain hdeep hfound halive hkey haddresses =>
      have hname := hs.name_of_activeDomain hfound
      obtain ⟨hget, hactive⟩ := Option.filter_eq_some_iff.1 hfound
      rw [← hname] at hget
      refine ⟨domain, hget, hkey, hactive, halive, hname, fun k => ?_⟩
      rw [domains_applyAll_writes, hkey]
      exact hkeys.get?_linkHost hget created.host.name.text k

/-- In every run of creates, edits and turns in any order, where distinct domains carry distinct keys at a commit:
the domain that the new host names by its key has one label more than a managed zone above the host. It stands in the
store under its own name, is active at the time of the request and not in pending delete, and of all domains it alone
gains the host. So a domain that is not active or in pending delete is left as it is. -/
theorem createHost_links_active_domain {w : World} (hbuilt : w.store.Built) {acts : List Act} {number : Nat}
    {turn : Turn} (hturn : (number, turn) ∈ (opened w).commits (moves acts))
    (hkeys : turn.world.store.DistinctKeys) :
    ∃ q host, (requested acts)[number]? = some q ∧ HostName.parse q.command.hostName = .ok host.name ∧
      turn.hosts = [host] ∧
      (∀ key, host.superordinate = some key → ∃ zone ∈ host.name.properSuffixes, ∃ domain,
        turn.world.store.isManaged zone = true ∧ domain.name = superordinateName host.name zone ∧
          turn.world.store.domains.get? domain.name = some domain ∧ domain.key = key ∧
          domain.isActiveAt q.context.now = true ∧ domain.isPendingDelete = false ∧
          ∀ name, turn.after.store.domains.get? name = if name = domain.name then
            some (domain.addSubordinate host.name.text) else turn.world.store.domains.get? name) ∧
      ∀ name domain, turn.world.store.domains.get? name = some domain →
        domain.isActiveAt q.context.now = false ∨ domain.isPendingDelete = true →
          turn.after.store.domains.get? name = some domain := by
  obtain ⟨q, zone, created, hq, hparse, hwrites, horderly, hbelongs, hzone⟩ :=
    exists_belongs hbuilt.orderly hturn
  refine ⟨q, created.host, hq, hparse, hosts_eq_of_writes_eq hwrites, ?_⟩
  rw [turn.store_after, hwrites]
  cases zone with
  | none =>
      cases hbelongs with
      | external hkey haddresses =>
          refine ⟨fun key h => ?_, fun name domain hfound _ => ?_⟩
          · rw [hkey] at h
            cases h
          · rw [domains_applyAll_writes, hkey]
            exact hfound
  | some zone =>
      obtain ⟨domain, hfound, hkey, hactive, halive, hname, hlinked⟩ := hbelongs.get?_applyAll hkeys horderly
      refine ⟨fun key h => ?_, fun name other hother hdead => ?_⟩
      · obtain ⟨habove, hmanaged⟩ := hzone zone rfl
        have hsame : domain.key = key := Option.some.inj (hkey.symm.trans h)
        exact ⟨zone, habove, domain, hmanaged, hname, hfound, hsame, hactive, halive, hlinked⟩
      · rw [hlinked]
        split
        · next hname =>
            -- The only domain that gains a host is neither inactive nor in pending delete.
            obtain rfl := Option.some.inj (hfound.symm.trans (hname ▸ hother))
            rcases hdead with hinactive | hpending
            · rw [hactive] at hinactive
              cases hinactive
            · rw [halive] at hpending
              cases hpending
        · exact hother

theorem createHost_links_active_domain_racing :
    delegated.Built ∧ ∃ turn host, (0, turn) ∈ (opened { store := delegated }).commits (moves racing) ∧
      turn.world.store.DistinctKeys ∧ turn.hosts = [host] ∧ host.superordinate = some ⟨.ofNat 7⟩ ∧
      ∃ zone domain, domain.name = superordinateName host.name zone ∧
        turn.world.store.domains.get? domain.name = some domain ∧ domain.key = ⟨.ofNat 7⟩ ∧
        domain.isPendingDelete = false := by
  have hrun : ∃ step ∈ (opened { store := delegated }).commits (moves racing), step.1 = 0 ∧
      step.2.world.store.DistinctKeys ∧ step.2.hosts.map Host.superordinate = [some ⟨.ofNat 7⟩] := by
    decide +kernel
  obtain ⟨⟨_, turn⟩, hturn, rfl, hkeys, hkey⟩ := hrun
  obtain ⟨q, host, -, -, hhost, hdomain, -⟩ := createHost_links_active_domain built_delegated hturn hkeys
  have hkey' : host.superordinate = some ⟨.ofNat 7⟩ := by
    rw [hhost] at hkey
    exact List.head_eq_of_cons_eq hkey
  obtain ⟨zone, -, domain, -, hname, hfound, hdomainKey, -, halive, -⟩ := hdomain _ hkey'
  exact ⟨built_delegated, turn, host, hturn, hkeys, hhost, hkey', zone, domain, hname, hfound, hdomainKey, halive⟩

end Create

end Bailiwick
