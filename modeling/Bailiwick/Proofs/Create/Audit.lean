import Mathlib.Data.List.Forall2
import Bailiwick.Proofs.Create.Replay
import Bailiwick.Proofs.Records

/-!
The audit trail of creates. Each committed create appends one entry to the history, for the row that it stores, and
its answer names both. An attempt that is discarded has drawn identifiers of its own, so nothing that it prepared
can be taken for what was committed.
-/

namespace Bailiwick.Create

variable {w : World} {acts : List Act} {number : Nat} {turn : Turn}

/-- The identifiers that a request may draw, one pair for each of its attempts. -/
def Request.drawn (q : Request) : List FreshIds := (List.range' 1 (max 1 q.service.maxAttempts)).map q.ids

/-- The identifiers that the requests of a run may draw. -/
def drawn (acts : List Act) : List FreshIds := (requested acts).flatMap Request.drawn

/-- No identifier is drawn twice in a run, and no row that was there or is put by others carries a key that is
drawn. -/
structure DrawsFresh (w : World) (acts : List Act) : Prop where
  hosts : ((drawn acts).map FreshIds.host).Nodup
  entries : ((drawn acts).map FreshIds.entry).Nodup
  unused : ∀ host ∈ w.store.hostRows ++ ((opened w).edits (moves acts)).flatMap (·.2.hosts),
    host.key ∉ (drawn acts).map FreshIds.host

/-- An entry is the only one of a store for a host, and the host is the only row with its key. -/
structure Records (s : Store) (entry : HistoryEntry) (host : Host) : Prop where
  type : entry.type = .hostCreate
  row : s.hostRows.filter (fun row => row.key = entry.hostKey) = [host]
  name : entry.hostName = host.name
  client : entry.client = host.sponsor
  time : entry.modificationTime = host.creationTime
  history : s.historyFor entry.hostKey = [entry]
  id : s.history.filter (fun other => other.entryId = entry.entryId) = [entry]

/-- A response names a row and the entry for it. -/
structure Response.Names (response : Response) (host : Host) (entry : HistoryEntry) : Prop where
  hostKey : response.hostKey = host.key
  hostName : response.hostName = host.name
  addresses : response.addresses = host.addresses
  superordinate : response.superordinate = host.superordinate
  historyEntry : response.historyEntry = entry.entryId
  creationTime : response.creationTime = host.creationTime
  dryRun : response.dryRun = false

/-- A turn leaves one row and one entry, which a request has prepared with identifiers that it drew. -/
structure Leaves (q : Request) (turn : Turn) (created : Created) (ids : FreshIds) : Prop where
  drawn : ids ∈ q.drawn
  hosts : turn.hosts = [created.host]
  entries : turn.entries = [created.history]
  charges : turn.charges = []
  rows : ∃ name addresses key client,
    created = Created.new ids name addresses key client q.context.now q.context.correlation

theorem Leaves.key_eq {q : Request} {created : Created} {ids : FreshIds} (h : Leaves q turn created ids) :
    created.host.key = ids.host ∧ created.history.hostKey = ids.host ∧ created.history.entryId = ids.entry := by
  obtain ⟨name, addresses, key, client, rfl⟩ := h.rows
  exact ⟨rfl, rfl, rfl⟩

theorem Makes.leaves {c : Company} {q : Request} {u : World} {client : ClientId} {name : HostName}
    {zone : Option String} {placement : Placement} {addresses : List IpAddress} {attempt : Nat} {created : Created}
    (h : Makes c q u turn client name zone placement addresses attempt created) :
    Leaves q turn created (q.ids attempt) := by
  obtain ⟨-, key, -, hcreated⟩ := decideOn_eq_ok h.decide_eq
  have hwrites := h.writes_eq
  rw [Created.writes] at hwrites
  refine ⟨?_, hosts_eq_of_writes_eq h.writes_eq, ?_, ?_, name, addresses, key, client, hcreated⟩
  · have hpos := h.pos
    have hle := h.le_budget
    exact List.mem_map_of_mem (List.mem_range'_1.2 (by omega))
  · rw [Turn.entries, hwrites]
    cases created.host.superordinate <;> rfl
  · rw [Turn.charges, hwrites]
    cases created.host.superordinate <;> rfl

/-- Every commit of a run leaves one row and one entry, and its request answers with them. -/
theorem exists_leaves (h : (number, turn) ∈ (opened w).commits (moves acts)) :
    ∃ q created ids, (requested acts)[number]? = some q ∧ Leaves q turn created ids ∧
      ∀ result, ((opened w).play (moves acts)).requests[number]? = some (.done result) →
        result = .ok (.ofCreated created false) := by
  obtain ⟨q, u, client, name, zone, placement, addresses, attempt, created, hq, -, hmakes, -, hresult⟩ :=
    makes_of_mem_commits Company.anyone_grows ⟨.calm, trivial⟩ (anyone_admits acts) h
  exact ⟨q, created, q.ids attempt, hq, hmakes.leaves, hresult⟩

/-- No request commits twice. -/
theorem nodup_commits (w : World) (acts : List Act) :
    ((opened w).commits (moves acts)).Pairwise fun earlier later => earlier.1 ≠ later.1 := by
  refine (pairwise_commits w acts).imp_of_mem ?_
  rintro ⟨k, earlier⟩ ⟨_, later⟩ hearlier - hnames rfl
  obtain ⟨q, created, ids, hq, -⟩ := exists_leaves hearlier
  exact hnames q q hq hq rfl

/-- Where all that is drawn differs, requests that have drawn the same are one. -/
theorem eq_of_drawn {κ : Type} {g : FreshIds → κ} (h : ((drawn acts).map g).Nodup) {k k' : Nat} {q q' : Request}
    (hq : (requested acts)[k]? = some q) (hq' : (requested acts)[k']? = some q') {ids ids' : FreshIds}
    (hids : ids ∈ q.drawn) (hids' : ids' ∈ q'.drawn) (hsame : g ids = g ids') : k = k' := by
  rw [drawn, List.map_flatMap, List.Nodup, List.pairwise_flatMap] at h
  have hdiffer := List.pairwise_iff_getElem.1 h.2
  obtain ⟨hlt, rfl⟩ := List.getElem?_eq_some_iff.1 hq
  obtain ⟨hlt', rfl⟩ := List.getElem?_eq_some_iff.1 hq'
  have hmem := List.mem_map_of_mem (f := g) hids
  have hmem' := List.mem_map_of_mem (f := g) hids'
  rcases Nat.lt_trichotomy k k' with hless | heq | hmore
  · exact absurd hsame (hdiffer k k' hlt hlt' hless _ hmem _ hmem')
  · exact heq
  · exact absurd hsame.symm (hdiffer k' k hlt' hlt hmore _ hmem' _ hmem)

/-- What the commits of a run leave, each with an identifier of its own, differs in these identifiers. -/
theorem nodup_of_drawn {ρ κ : Type} {rows : Turn → List ρ} {f : ρ → κ} {g : FreshIds → κ}
    (hrows : ∀ q turn created ids, Leaves q turn created ids → ∃ row, rows turn = [row] ∧ f row = g ids)
    (h : ((drawn acts).map g).Nodup) :
    ((((opened w).commits (moves acts)).flatMap fun step => rows step.2).map f).Nodup := by
  rw [List.map_flatMap, List.Nodup, List.pairwise_flatMap]
  constructor
  · rintro ⟨k, turn⟩ hmem
    obtain ⟨q, created, ids, -, hleaves, -⟩ := exists_leaves hmem
    obtain ⟨row, hrow, -⟩ := hrows q turn created ids hleaves
    rw [hrow]
    exact List.pairwise_singleton _ _
  · refine (nodup_commits w acts).imp_of_mem ?_
    rintro ⟨k, turn⟩ ⟨k', turn'⟩ hmem hmem' hne
    obtain ⟨q, created, ids, hq, hleaves, -⟩ := exists_leaves hmem
    obtain ⟨q', created', ids', hq', hleaves', -⟩ := exists_leaves hmem'
    obtain ⟨row, hrow, hid⟩ := hrows q turn created ids hleaves
    obtain ⟨row', hrow', hid'⟩ := hrows q' turn' created' ids' hleaves'
    have hdiffer : f row ≠ f row' := fun hsame =>
      hne (eq_of_drawn h hq hq' hleaves.drawn hleaves'.drawn (hid.symm.trans (hsame.trans hid')))
    rw [hrow, hrow']
    simpa using hdiffer

/-- The history of a run that starts with none is what its commits have left. -/
theorem history_eq_flatMap (hempty : w.store.history = []) :
    ((opened w).play (moves acts)).world.store.history
      = ((opened w).commits (moves acts)).flatMap fun step => step.2.entries := by
  rw [Registry.history_play, show (opened w).world.store.history = [] from hempty, List.nil_append]

/-- The row that a commit leaves is the only one of the run with its key. -/
theorem filter_hostRows_eq (hfresh : DrawsFresh w acts) (h : (number, turn) ∈ (opened w).commits (moves acts))
    {host : Host} (hhost : turn.hosts = [host]) :
    ((opened w).play (moves acts)).world.store.hostRows.filter (fun row => row.key = host.key) = [host] := by
  have hkeys : ((((opened w).commits (moves acts)).flatMap fun step => step.2.hosts).map Host.key).Nodup :=
    nodup_of_drawn (fun q turn created ids hleaves => ⟨_, hleaves.hosts, hleaves.key_eq.1⟩) hfresh.hosts
  have hmem : host ∈ ((opened w).commits (moves acts)).flatMap fun step => step.2.hosts :=
    List.mem_flatMap.2 ⟨(number, turn), h, hhost ▸ List.mem_singleton_self host⟩
  obtain ⟨q, created, ids, hq, hleaves, -⟩ := exists_leaves h
  have hdrawn : host.key ∈ (drawn acts).map FreshIds.host := by
    obtain rfl : created.host = host := List.head_eq_of_cons_eq (hleaves.hosts.symm.trans hhost)
    rw [hleaves.key_eq.1]
    exact List.mem_map_of_mem (List.mem_flatMap.2 ⟨q, List.mem_of_getElem? hq, hleaves.drawn⟩)
  have hothers : (w.store.hostRows ++ ((opened w).edits (moves acts)).flatMap (·.2.hosts)).filter
      (fun row => row.key = host.key) = [] := by
    refine List.filter_eq_nil_iff.2 fun other hother hsame => ?_
    rw [← of_decide_eq_true hsame] at hdrawn
    exact hfresh.unused other hother hdrawn
  have hperm := ((opened w).hostRows_play (moves acts)).filter (fun row => row.key = host.key)
  have hstart : (opened w).world.store.hostRows = w.store.hostRows := rfl
  rw [hstart, ← List.append_assoc, List.filter_append, hothers, List.nil_append,
    Table.filter_eq_singleton_of_nodup hkeys hmem] at hperm
  exact List.perm_singleton.1 hperm

/-- What a commit leaves is on record: its entry is the only one of its host and its row the only one of its key. -/
theorem records_of_mem_commits (hempty : w.store.history = []) (hfresh : DrawsFresh w acts)
    (h : (number, turn) ∈ (opened w).commits (moves acts)) :
    ∃ host entry, turn.hosts = [host] ∧ turn.entries = [entry] ∧
      Records ((opened w).play (moves acts)).world.store entry host ∧
      ∀ result, ((opened w).play (moves acts)).requests[number]? = some (.done result) →
        ∃ response, result = .ok response ∧ response.Names host entry := by
  obtain ⟨q, created, ids, hq, hleaves, hresult⟩ := exists_leaves h
  have hrow := filter_hostRows_eq hfresh h hleaves.hosts
  have hmem : created.history ∈ ((opened w).commits (moves acts)).flatMap fun step => step.2.entries :=
    List.mem_flatMap.2 ⟨(number, turn), h, hleaves.entries ▸ List.mem_singleton_self _⟩
  have hhosts : ((((opened w).commits (moves acts)).flatMap fun step => step.2.entries).map
      HistoryEntry.hostKey).Nodup :=
    nodup_of_drawn (fun q turn created ids hleaves => ⟨_, hleaves.entries, hleaves.key_eq.2.1⟩) hfresh.hosts
  have hentries : ((((opened w).commits (moves acts)).flatMap fun step => step.2.entries).map
      HistoryEntry.entryId).Nodup :=
    nodup_of_drawn (fun q turn created ids hleaves => ⟨_, hleaves.entries, hleaves.key_eq.2.2⟩) hfresh.entries
  have hhistory := Table.filter_eq_singleton_of_nodup hhosts hmem
  have hid := Table.filter_eq_singleton_of_nodup hentries hmem
  rw [← history_eq_flatMap hempty] at hhistory hid
  obtain ⟨name, addresses, key, client, rfl⟩ := hleaves.rows
  refine ⟨_, _, hleaves.hosts, hleaves.entries, ⟨rfl, hrow, rfl, rfl, rfl, hhistory, hid⟩, fun result hdone => ?_⟩
  exact ⟨_, hresult result hdone, ⟨rfl, rfl, rfl, rfl, rfl, rfl, rfl⟩⟩

/-- Lists of which each element of one stands for an element of the other. -/
theorem forall₂_flatMap {α β : Type} {R : α → β → Prop} {f : α → List β} {l : List α}
    (h : ∀ a ∈ l, ∃ b, f a = [b] ∧ R a b) : List.Forall₂ R l (l.flatMap f) := by
  induction l with
  | nil => exact .nil
  | cons a rest ih =>
      obtain ⟨b, hb, hR⟩ := h a List.mem_cons_self
      rw [List.flatMap_cons, hb]
      exact .cons hR (ih fun a' ha' => h a' (List.mem_cons_of_mem a ha'))

/-- In every run of creates, edits and turns in any order that starts without history, and in which no identifier is
drawn twice or occurs in other rows: the history has one entry for each commit, in their order; each is the entry of
the row that its commit has stored, the only one of that host, and its host the only row with its key. A create that
succeeds and is no dry run answers with the row and the entry of its own commit. Nothing is charged. -/
theorem createHost_audited {w : World} (hempty : w.store.history = []) {acts : List Act}
    (hfresh : DrawsFresh w acts) :
    let commits := (opened w).commits (moves acts)
    let final := (opened w).play (moves acts)
    let s := final.world.store
    List.Forall₂ (fun commit entry => ∃ host, commit.2.hosts = [host] ∧ Records s entry host) commits s.history ∧
      (commits.map Prod.fst).Nodup ∧
      (∀ number q response, (requested acts)[number]? = some q → q.context.dryRun = false →
        final.requests[number]? = some (.done (.ok response)) →
          ∃ turn host entry, (number, turn) ∈ commits ∧ turn.hosts = [host] ∧ turn.entries = [entry] ∧
            Records s entry host ∧ response.Names host entry) ∧
      s.billing = w.store.billing := by
  intro commits final s
  refine ⟨?_, List.pairwise_map.2 (nodup_commits w acts), fun number q response hq hreal hdone => ?_, ?_⟩
  · rw [show s.history = commits.flatMap fun step => step.2.entries from history_eq_flatMap hempty]
    refine forall₂_flatMap fun commit hcommit => ?_
    obtain ⟨host, entry, hhost, hentry, hrecords, -⟩ := records_of_mem_commits hempty hfresh hcommit
    exact ⟨entry, hentry, host, hhost, hrecords⟩
  · obtain ⟨turn, hturn⟩ := exists_commit_of_done Company.anyone_grows (anyone_admits acts) hq hreal hdone
    obtain ⟨host, entry, hhost, hentry, hrecords, hresult⟩ := records_of_mem_commits hempty hfresh hturn
    obtain ⟨_, hsame, hnames⟩ := hresult _ hdone
    obtain rfl := Except.ok.inj hsame
    exact ⟨turn, host, entry, hturn, hhost, hentry, hrecords, hnames⟩
  · have hnone : commits.flatMap (fun step => step.2.charges) = [] := by
      refine List.flatMap_eq_nil_iff.2 fun commit hcommit => ?_
      obtain ⟨q, created, ids, -, hleaves, -⟩ := exists_leaves hcommit
      exact hleaves.charges
    rw [show s.billing = w.store.billing ++ commits.flatMap fun step => step.2.charges from
      Registry.billing_play (opened w) (moves acts), hnone, List.append_nil]

/-- Two clients ask for two hosts under one domain. The domain is put again before either of them commits, so both
make a second attempt; a row of a third host is put meanwhile. -/
def crowded : List Act :=
  let other := glued ⟨"NewRegistrar"⟩ [⟨.v4, "192.0.2.2"⟩]
  let ids : Nat → FreshIds := fun number => { host := ⟨.ofNat (30 + number)⟩, entry := .ofNat (40 + number) }
  [.submit (glued ⟨"TheRegistrar"⟩ [⟨.v4, "192.0.2.1"⟩]),
      .submit { other with ids, command := { other.command with hostName := "ns2.example.tld" } }]
    ++ rounds 12
    ++ [.edit (.putDomain (.new ⟨.ofNat 7⟩ "example.tld" ⟨"NewRegistrar"⟩ .epoch)),
      .edit (.putHost (Created.new ⟨⟨.ofNat 50⟩, .ofNat 51⟩ ⟨"ns3.example.tld", by decide +kernel⟩ [] none
        ⟨"NewRegistrar"⟩ .epoch (.ofNat 2)).host)]
    ++ rounds 14

theorem createHost_audited_crowded :
    let s := ((opened { store := delegated }).play (moves crowded)).world.store
    delegated.history = [] ∧ DrawsFresh { store := delegated } crowded ∧
      ∃ first second host host', s.history = [first, second] ∧ Records s first host ∧ Records s second host' ∧
        host.key = ⟨.ofNat 12⟩ ∧ host'.key = ⟨.ofNat 32⟩ := by
  intro s
  have hfresh : DrawsFresh { store := delegated } crowded :=
    ⟨by decide +kernel, by decide +kernel, by decide +kernel⟩
  have hkeys : ((opened { store := delegated }).commits (moves crowded)).map (fun commit => commit.2.hosts.map Host.key)
      = [[⟨.ofNat 12⟩], [⟨.ofNat 32⟩]] := by
    decide +kernel
  obtain ⟨haudit, -⟩ := createHost_audited (w := { store := delegated }) rfl hfresh
  refine ⟨rfl, hfresh, ?_⟩
  obtain ⟨⟨_, turn⟩, rest, hfirst, hkey, hkeys⟩ := List.map_eq_cons_iff.1 hkeys
  obtain ⟨⟨_, turn'⟩, rest', hsecond, hkey', hnone⟩ := List.map_eq_cons_iff.1 hkeys
  rw [hfirst, hsecond, List.map_eq_nil_iff.1 hnone] at haudit
  obtain ⟨first, _, ⟨host, hhost, hrecords⟩, hlater, hhistory⟩ := List.forall₂_cons_left_iff.1 haudit
  obtain ⟨second, _, ⟨host', hhost', hrecords'⟩, hend, hhistory'⟩ := List.forall₂_cons_left_iff.1 hlater
  rw [hhistory', List.forall₂_nil_left_iff.1 hend] at hhistory
  simp only [hhost, hhost', List.map_cons, List.map_nil, List.cons.injEq, and_true] at hkey hkey'
  exact ⟨first, second, host, host', hhistory, hrecords, hrecords', hkey, hkey'⟩

end Bailiwick.Create
