import Bailiwick.Proofs.Create.Depth
import Bailiwick.Proofs.Create.Formal
import Bailiwick.Proofs.Create.Reads
import Bailiwick.Proofs.Create.Superordinate

/-!
Creates among themselves, with no other writer and the store in reach. Zones stay, and of a domain only the names of
its hosts change, so a request passes or fails all checks but the one on uniqueness from the beginning. A row that is
stored under a name is the row of a create of that name, and is active at all times.
-/

namespace Bailiwick

open Deed Transaction

namespace Store

/-- No write of a transaction raises the version of a domain. -/
theorem domain_notMem_bumps (writes : List Write) (name : String) :
    ReadKey.domain name ∉ writes.filterMap Write.bump? := by
  intro h
  obtain ⟨write, -, hbump⟩ := List.mem_filterMap.1 h
  cases write <;> cases hbump

/-- A row is stored under a name that is active at all times. -/
def Holds (s : Store) (name : String) : Prop := ∃ host ∈ s.hostsNamed name, ∀ instant, host.isActiveAt instant = true

theorem Holds.of_later {s t : Store} {name : String} (h : s.Holds name) (hlater : s.Later t) : t.Holds name := by
  obtain ⟨host, hhost, hactive⟩ := h
  exact ⟨host, (hlater.hosts name).subset hhost, hactive⟩

theorem Holds.activeHost_ne_none {s : Store} {name : String} (h : s.Holds name) (now : Instant) :
    s.activeHost name now ≠ none := by
  intro hnone
  obtain ⟨host, hhost, hactive⟩ := h
  have htombstone := activeHost_eq_none_iff.1 hnone host hhost
  rw [hactive] at htombstone
  cases htombstone

end Store

/-- Where a name is free at first and held later on, a row of that name was stored in between. -/
theorem Unbroken.exists_bump_of_activeHost {w : World} {deeds : List Deed} (h : Unbroken w deeds) {name : String}
    {now : Instant} (hfree : w.store.activeHost name now = none)
    (hheld : (w.through deeds).store.activeHost name now ≠ none) : ∃ deed ∈ deeds, ReadKey.host name ∈ deed.bumps := by
  by_contra hnever
  have hversion : (w.through deeds).store.hostVersion name = w.store.hostVersion name :=
    (h.version_through_eq_iff (.host name)).2 fun deed hdeed hkey => hnever ⟨deed, hdeed, hkey⟩
  have hrows := h.later.hosts_eq name hversion
  rw [Store.activeHost, hrows] at hheld
  exact hheld hfree

/-- A name that is held stays so. -/
theorem Store.activeHost_ne_none_of_later {s t : Store} {name : String} {now : Instant} (hlater : s.Later t)
    (h : s.activeHost name now ≠ none) : t.activeHost name now ≠ none := by
  intro hnone
  refine h (activeHost_eq_none_iff.2 fun host hhost => ?_)
  exact activeHost_eq_none_iff.1 hnone host ((hlater.hosts name).subset hhost)

/-- Rows that agree but for the names of their hosts have the same key. -/
theorem Domain.key_of_bare {d e : Domain} (h : d.bare = e.bare) : d.key = e.key := by
  have hkey : d.bare.key = e.bare.key := by rw [h]
  exact hkey

theorem Domain.name_of_bare {d e : Domain} (h : d.bare = e.bare) : d.name = e.name := by
  have hname : d.bare.name = e.bare.name := by rw [h]
  exact hname

theorem Domain.isPendingDelete_of_bare {d e : Domain} (h : d.bare = e.bare) :
    d.isPendingDelete = e.isPendingDelete := by
  have hpending : d.bare.isPendingDelete = e.bare.isPendingDelete := by rw [h]
  exact hpending

/-- Stores with the same zones, and with the same domains but for the hosts under them. -/
structure Store.SameGround (s t : Store) : Prop where
  zones (zone : String) : t.isManaged zone = s.isManaged zone
  domains (name : String) : (t.domains.get? name).map Domain.bare = (s.domains.get? name).map Domain.bare
  keys : t.domains.rows.map Domain.key = s.domains.rows.map Domain.key

namespace Store.SameGround

variable {s t u : Store}

theorem refl (s : Store) : s.SameGround s := ⟨fun _ => rfl, fun _ => rfl, rfl⟩

theorem symm (h : s.SameGround t) : t.SameGround s :=
  ⟨fun zone => (h.zones zone).symm, fun name => (h.domains name).symm, h.keys.symm⟩

theorem trans (hst : s.SameGround t) (htu : t.SameGround u) : s.SameGround u :=
  ⟨fun zone => (htu.zones zone).trans (hst.zones zone), fun name => (htu.domains name).trans (hst.domains name),
    htu.keys.trans hst.keys⟩

theorem bare_eq (h : s.SameGround t) {name : String} {d e : Domain} (hs : s.domains.get? name = some d)
    (ht : t.domains.get? name = some e) : e.bare = d.bare := by
  have hsame := h.domains name
  rw [hs, ht] at hsame
  exact Option.some.inj hsame

theorem zoneOf_eq (h : s.SameGround t) (name : HostName) : t.zoneOf name = s.zoneOf name := by
  have hmanaged : t.isManaged = s.isManaged := funext h.zones
  rw [zoneOf, zoneOf, hmanaged]

end Store.SameGround

/-- Writes leave the ground of a store as it is. -/
theorem Store.sameGround_applyAll (s : Store) (writes : List Write) : s.SameGround (s.applyAll writes) := by
  refine ⟨s.isManaged_applyAll writes, fun name => (s.later_applyAll writes).domain_eq name ?_, s.keys_applyAll writes⟩
  have hversion := s.version_applyAll writes (.domain name)
  rwa [List.count_eq_zero_of_not_mem (domain_notMem_bumps writes name)] at hversion

/-- Others that change neither zones nor domains, but for the hosts under them, with the store in reach. -/
def Company.peers : Company where
  changes v w := v.store.Later w.store ∧ v.store.SameGround w.store
  meets surroundings := ∀ call, surroundings.outage call = Option.none
  alike h := by
    rw [h.store]
    exact ⟨.refl _, .refl _⟩
  trans huv hvw := ⟨huv.1.trans hvw.1, huv.2.trans hvw.2⟩

theorem Company.peers_grows : Company.peers.Grows := fun h => h.1

theorem Company.not_outage_of_peers (call : Call) (fault : Fault) : ¬ Company.peers.Outage call fault := by
  rintro ⟨surroundings, hmeets, hfault⟩
  rw [hmeets call] at hfault
  cases hfault

theorem World.sameGround_perform (surroundings : Surroundings) (w : World) (op : Op) :
    w.store.SameGround (w.perform surroundings op).1.store := by
  let turn : Turn := ⟨w, surroundings, op⟩
  have hstore : turn.after.store = w.store.applyAll turn.writes := turn.store_after
  show w.store.SameGround turn.after.store
  rw [hstore]
  exact w.store.sameGround_applyAll turn.writes

namespace Create

/-- A submission of a create, or a turn that finds the store in reach. -/
def Act.IsCreate : Act → Prop
  | .edit _ => False
  | .submit _ => True
  | .turn _ surroundings => ∀ call, surroundings.outage call = none

variable {acts : List Act} {w u v : World} {number : Nat} {q : Request} {client : ClientId} {name : HostName}
  {zone : Option String} {placement : Placement} {addresses : List IpAddress} {deed : Deed} {s t : Store}

theorem peers_admits (hacts : ∀ act ∈ acts, act.IsCreate) : ∀ act ∈ acts, Company.peers.Admits act.move := by
  intro act hact
  have hcreate := hacts act hact
  cases act with
  | edit e => cases hcreate
  | submit q => trivial
  | turn number surroundings =>
      exact ⟨hcreate, fun w op => ⟨w.later_perform surroundings op, w.sameGround_perform surroundings op⟩⟩

/-- Creates among themselves make no edits. -/
theorem edit_notMem_moves (hacts : ∀ act ∈ acts, act.IsCreate) (e : Store.Edit) : Move.edit e ∉ moves acts := by
  intro h
  obtain ⟨act, hact, hmove⟩ := List.mem_map.1 h
  have hcreate := hacts act hact
  cases act with
  | edit e' => cases hcreate
  | _ => cases hmove

/-- A turn that raises a version is the commit of a request, and raises the version of its name. -/
theorem commit_of_bump {k : Nat} {turn : Turn} (hturn : Deed.turn k turn ∈ (opened w).deeds (moves acts))
    {key : ReadKey} (hkey : key ∈ (Deed.turn k turn).bumps) :
    (k, turn) ∈ (opened w).commits (moves acts) ∧ ∃ q name, (requested acts)[k]? = some q ∧
      HostName.parse q.command.hostName = .ok name ∧ key = .host name.text ∧ turn.after.store.Holds name.text := by
  have hcommits : turn.commits = true := by
    by_contra hquiet
    rw [bumps, Turn.writes_of_not_commits (Bool.eq_false_iff.2 hquiet)] at hkey
    cases hkey
  have hcommit := Registry.mem_commits.2 ⟨Registry.mem_deeds.1 hturn, hcommits⟩
  obtain ⟨q, u, client, name, zone, placement, addresses, attempt, created, hq, -, hmakes, -⟩ :=
    makes_of_mem_commits Company.anyone_grows ⟨.calm, trivial⟩ (anyone_admits acts) hcommit
  refine ⟨hcommit, q, name, hq, hmakes.parse_eq, ?_, hmakes.exists_active⟩
  rw [bumps, hmakes.writes_eq, Created.writes] at hkey
  rw [← hmakes.name_eq]
  cases hdomain : created.host.superordinate <;> simpa [hdomain, Store.Write.bump?] using hkey

/-- Of creates among themselves only a commit raises a version, and that of the name of its request. -/
theorem exists_commit_of_bump (hacts : ∀ act ∈ acts, act.IsCreate) (hdeed : deed ∈ (opened w).deeds (moves acts))
    {key : ReadKey} (hkey : key ∈ deed.bumps) :
    ∃ k turn q name, deed = .turn k turn ∧ (k, turn) ∈ (opened w).commits (moves acts) ∧
      (requested acts)[k]? = some q ∧ HostName.parse q.command.hostName = .ok name ∧ key = .host name.text ∧
      turn.after.store.Holds name.text := by
  cases deed with
  | edit e => exact absurd (Registry.edit_mem_of_mem_deeds hdeed) (edit_notMem_moves hacts e)
  | turn k turn =>
      obtain ⟨hcommit, q, name, hq, hparse, hsame, hholds⟩ := commit_of_bump hdeed hkey
      exact ⟨k, turn, q, name, rfl, hcommit, hq, hparse, hsame, hholds⟩

/-- Every request of a run has come to a result. -/
def Complete (w : World) (acts : List Act) : Prop :=
  ∀ work ∈ ((opened w).play (moves acts)).requests, ∃ result, work = .done result

theorem Complete.exists_result (h : Complete w acts) (hq : (requested acts)[number]? = some q) :
    ∃ result, ((opened w).play (moves acts)).requests[number]? = some (.done result) := by
  obtain ⟨work, -, hwork, -⟩ := ensures_opened Company.anyone_grows (anyone_admits acts) hq
  obtain ⟨result, rfl⟩ := h work (List.mem_of_getElem? hwork)
  exact ⟨result, hwork⟩

/-- A result that is not a fault of the surroundings. -/
def Lasting {α : Type} (result : Except Refusal α) : Prop :=
  ∀ refusal, result = .error refusal → refusal.isTransient = false

section Lasting

variable {α β : Type}

theorem lasting_ok (a : α) : Lasting (.ok a) := nofun

theorem lasting_error {refusal : Refusal} (h : refusal.isTransient = false) :
    Lasting (.error refusal : Except Refusal α) :=
  fun _ hsame => Except.error.inj hsame ▸ h

theorem Lasting.map {x : Except Refusal α} (hx : Lasting x) (f : α → β) : Lasting (x.map f) := by
  cases x with
  | ok a => exact lasting_ok (f a)
  | error refusal => exact lasting_error (hx refusal rfl)

end Lasting

theorem Formal.lasting {α : Type} {result : Except Refusal α} (h : Formal result) : Lasting result :=
  fun refusal hrefusal => Refusal.isTransient_of_isFormal (h refusal hrefusal)

theorem lasting_superordinateOn (s : Store) (domainName : Option String) (now : Instant) :
    Lasting (superordinateOn s domainName now) := by
  cases domainName with
  | none => exact lasting_ok none
  | some d =>
      refine Lasting.map ?_ _
      cases s.activeDomain d now with
      | none => exact lasting_error rfl
      | some domain =>
          simp only [checkSuperordinate]
          split
          · exact lasting_error rfl
          · exact lasting_ok domain

/-- Among creates alone a request is not refused for a fault before its transaction. -/
theorem Objected.lasting {refusal : Refusal} {trail : Trail} (h : Objected .peers q u v refusal trail) :
    refusal.isTransient = false := by
  cases h with
  | anonymous _ => rfl
  | misnamed _ h => exact (formal_parse _).lasting _ h
  | zoneOutage _ _ h => exact absurd h (Company.not_outage_of_peers _ _)
  | shallow _ h => exact (formal_checkDepth _ _ _).lasting _ h
  | domainOutage _ _ h => exact absurd h (Company.not_outage_of_peers _ _)
  | orphan _ _ _ => rfl
  | misaddressed _ h => exact (formal_resolveAddresses _ _).lasting _ h
  | hostOutage _ _ h => exact absurd h (Company.not_outage_of_peers _ _)
  | held _ _ _ => split <;> rfl

/-- A request for a name that passes every check on a store, whether or not the name is free. -/
structure Request.Qualifies (q : Request) (s : Store) (name : HostName) : Prop where
  loggedIn : q.context.client ≠ none
  parse_eq : HostName.parse q.command.hostName = .ok name
  deep : q.shallow? name (s.zoneOf name) = none
  delegated : q.orphan? s name (s.zoneOf name) = none
  readable : q.misread? = none
  addressed : q.misaddressed? (s.zoneOf name) = none
  alive : q.purging? s name (s.zoneOf name) = none

/-- A request to which there is no objection qualifies for a name that is free. -/
theorem qualifies_of_objection? (h : q.objection? s = none) (hname : HostName.parse q.command.hostName = .ok name) :
    q.Qualifies s name ∧ s.activeHost name.text q.context.now = none := by
  rw [Request.objection?] at h
  cases hclient : q.context.client with
  | none =>
      rw [hclient] at h
      cases h
  | some client =>
      simp only [hclient, hname, Option.orElse_eq_orElse, Option.orElse_eq_or, Option.or_eq_none_iff] at h
      obtain ⟨hdeep, hdelegated, ⟨hreadable, haddressed⟩, hfree, halive⟩ := h
      rw [Request.held?, ← Store.activeHost_eq_getLast?] at hfree
      refine ⟨⟨?_, hname, hdeep, hdelegated, hreadable, haddressed, halive⟩, Option.map_eq_none_iff.1 hfree⟩
      rw [hclient]
      rintro ⟨⟩

/-- The domain of a name may gain a host exactly where there is no objection to it. -/
theorem exists_superordinateOn_iff : (∃ key, superordinateOn s (zone.map (superordinateName name)) q.context.now
    = .ok key) ↔ q.orphan? s name zone = none ∧ q.purging? s name zone = none := by
  cases zone with
  | none => exact ⟨fun _ => ⟨rfl, rfl⟩, fun _ => ⟨none, rfl⟩⟩
  | some z =>
      rw [Option.map_some, superordinateOn, Request.orphan?, Request.purging?, Option.bind_some, Option.bind_some]
      cases s.activeDomain (superordinateName name z) q.context.now with
      | none =>
          constructor
          · rintro ⟨_, ⟨⟩⟩
          · rintro ⟨⟨⟩, -⟩
      | some domain =>
          simp only [checkSuperordinate, Option.bind_some, true_and]
          split
          · constructor
            · rintro ⟨_, ⟨⟩⟩
            · rintro ⟨⟩
          · exact ⟨fun _ => rfl, fun _ => ⟨_, rfl⟩⟩

/-- On the same ground the same domains may gain a host. -/
theorem superordinateOn_eq_of_sameGround (h : s.SameGround t) (domainName : Option String) (now : Instant) :
    superordinateOn t domainName now = superordinateOn s domainName now := by
  cases domainName with
  | none => rfl
  | some d =>
      have hbare := Store.activeDomain_congr (h.domains d) now
      rw [superordinateOn, superordinateOn]
      cases ht : t.activeDomain d now with
      | none =>
          rw [ht] at hbare
          rw [Option.map_eq_none_iff.1 hbare.symm]
      | some domain =>
          rw [ht] at hbare
          obtain ⟨other, hother, hsame⟩ := Option.map_eq_some_iff.1 hbare.symm
          rw [hother]
          simp only [checkSuperordinate, Domain.isPendingDelete_of_bare hsame]
          split
          · rfl
          · exact congrArg (fun key => Except.ok (some key)) (Domain.key_of_bare hsame).symm

theorem Request.Qualifies.of_sameGround (h : s.SameGround t) (hq : q.Qualifies s name) : q.Qualifies t name := by
  have hzone := h.zoneOf_eq name
  have hdomain : q.orphan? t name (t.zoneOf name) = none ∧ q.purging? t name (t.zoneOf name) = none := by
    rw [← exists_superordinateOn_iff, hzone, superordinateOn_eq_of_sameGround h]
    exact exists_superordinateOn_iff.2 ⟨hq.delegated, hq.alive⟩
  refine ⟨hq.loggedIn, hq.parse_eq, ?_, hdomain.1, hq.readable, ?_, hdomain.2⟩
  · rw [hzone]
    exact hq.deep
  · rw [hzone]
    exact hq.addressed

theorem Settles.eq_none_of_ok {α : Type} {objection : Option Refusal} {x : Except Refusal α} {a : α}
    (h : Settles objection x) (hx : x = .ok a) : objection = none := by
  cases objection with
  | none => rfl
  | some refusal => cases hx.symm.trans h

theorem Zoned.zoneOf_eq (h : Zoned .peers q u v client name zone) : u.store.zoneOf name = zone := by
  refine h.scanned.eq_find? ?_
  rintro z managed ⟨moment, hmoment, -, hmanaged⟩
  rw [← hmanaged, hmoment.2.zones]

/-- A host is placed as one store of its time places it. -/
theorem Sited.exists_placeOn (h : Sited .peers q u v client name zone placement) (hu : u.store.Orderly) :
    ∃ t : Store, u.store.SameGround t ∧ placeOn t name zone q.context.now = .ok placement ∧
      placement.superordinate?.map Domain.name = zone.map (superordinateName name) := by
  have hname := h.superordinate?_eq Company.peers_grows hu
  have hplaced := h.placed
  cases hplaced with
  | external => exact ⟨u.store, .refl _, rfl, hname⟩
  | subordinate hmet =>
      obtain ⟨moment, hmoment, -, hfound⟩ := hmet
      exact ⟨moment.store, hmoment.2, by rw [placeOn, hfound], hname⟩

/-- A request that passed the checks before its transaction and may have its domain qualifies. -/
theorem Passed.qualifies (h : Passed .peers q u v client name zone placement addresses) (hu : u.store.Orderly)
    (ht : u.store.SameGround t) {key : Option DomainKey}
    (hkey : superordinateOn t (placement.superordinate?.map Domain.name) q.context.now = .ok key) :
    q.Qualifies u.store name := by
  obtain ⟨s, -, hplace, hname⟩ := h.exists_placeOn hu
  have hzone := h.zoneOf_eq
  rw [hname, superordinateOn_eq_of_sameGround ht] at hkey
  obtain ⟨hdelegated, halive⟩ := exists_superordinateOn_iff.1 ⟨key, hkey⟩
  have haddresses : q.misread? = none ∧ q.misaddressed? zone = none := by
    have hnone := (settles_resolveAddresses hplace).eq_none_of_ok h.resolve_eq
    cases hread : q.misread? with
    | none =>
        rw [hread] at hnone
        exact ⟨rfl, hnone⟩
    | some refusal =>
        rw [hread] at hnone
        cases hnone
  refine ⟨?_, h.parse_eq, ?_, ?_, haddresses.1, ?_, ?_⟩
  · rw [h.client_eq]
    nofun
  all_goals rw [hzone]
  · exact settles_checkDepth.eq_none_of_ok h.depth_eq
  · exact hdelegated
  · exact haddresses.2
  · exact halive

/-- Among creates alone a request that qualifies is refused before its transaction only where its name is held. -/
theorem Objected.held_of_qualifies {refusal : Refusal} {trail : Trail} (h : Objected .peers q u v refusal trail)
    (hq : q.Qualifies u.store name) (hu : u.store.Orderly) :
    (refusal = .alreadyExistsForThisClient name.text ∨ refusal = .createContention name.text) ∧
      v.store.activeHost name.text q.context.now ≠ none := by
  have hname {client : ClientId} {other : HostName} {zone : Option String}
      (hzone : Zoned .peers q u v client other zone) : other = name :=
    Except.ok.inj (hzone.parse_eq.symm.trans hq.parse_eq)
  cases h with
  | anonymous h => exact absurd h hq.loggedIn
  | misnamed _ h => cases hq.parse_eq.symm.trans h
  | zoneOutage _ _ h => exact absurd h (Company.not_outage_of_peers _ _)
  | domainOutage _ _ h => exact absurd h (Company.not_outage_of_peers _ _)
  | hostOutage _ _ h => exact absurd h (Company.not_outage_of_peers _ _)
  | shallow hzone h =>
      obtain rfl := hname hzone
      have hdeep := hq.deep
      rw [hzone.zoneOf_eq] at hdeep
      cases (settles_checkDepth.eq_error_iff _).1 h ▸ hdeep
  | orphan hzone _ h =>
      obtain rfl := hname hzone
      obtain ⟨moment, hmoment, -, hnone⟩ := h
      have hdelegated := (hq.of_sameGround hmoment.2).delegated
      rw [hmoment.2.zoneOf_eq, hzone.zoneOf_eq, Request.orphan?, Option.bind_some, hnone] at hdelegated
      cases hdelegated
  | misaddressed hsite h =>
      obtain rfl := hname hsite.toZoned
      obtain ⟨s, -, hplace, -⟩ := hsite.exists_placeOn hu
      have haddressed := hq.addressed
      rw [hsite.zoneOf_eq] at haddressed
      have hobjection := ((settles_resolveAddresses hplace).eq_error_iff _).1 h
      rw [hq.readable, haddressed] at hobjection
      cases hobjection
  | held hsite _ h =>
      obtain rfl := hname hsite.toZoned
      obtain ⟨moment, -, hlast, hheld⟩ := h
      refine ⟨?_, ?_⟩
      · split
        · exact .inl rfl
        · exact .inr rfl
      · refine Store.activeHost_ne_none_of_later hlast.1 ?_
        rw [hheld]
        rintro ⟨⟩

end Create

end Bailiwick
