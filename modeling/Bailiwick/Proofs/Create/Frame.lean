import Bailiwick.Proofs.Create.Superordinate

/-!
What a create leaves alone. The commit of a create adds its rows to a store and nothing else, and every other turn of
a create leaves the store as it was. In a run of creates and edits host rows and history only ever grow.
-/

namespace Bailiwick

/-- A change of the first row that satisfies a condition leaves all entries, or changes one in its place. -/
theorem Table.updateFirstEntry_cases {ρ : Type} (p : ρ → Bool) (f : ρ → ρ) (entries : List (String × ρ)) :
    updateFirstEntry p f entries = entries ∨
      ∃ before name row after, entries = before ++ (name, row) :: after ∧ p row = true ∧
        updateFirstEntry p f entries = before ++ (name, f row) :: after := by
  induction entries with
  | nil => exact .inl rfl
  | cons entry rest ih =>
      obtain ⟨name, row⟩ := entry
      rw [updateFirstEntry]
      by_cases hrow : p row = true
      · rw [if_pos hrow]
        exact .inr ⟨[], name, row, rest, rfl, hrow, rfl⟩
      · rw [if_neg hrow]
        rcases ih with hsame | ⟨before, k, found, after, rfl, hfound, hchanged⟩
        · exact .inl (congrArg _ hsame)
        · exact .inr ⟨(name, row) :: before, k, found, after, rfl, hfound, congrArg _ hchanged⟩

namespace Store

/-- A table of domains has gained a host name in the row of a key, if there is such a row, and is else the same. -/
def GainsHost (before after : Table Domain) (key : DomainKey) (hostName : String) : Prop :=
  after = before ∨ ∃ front name domain back, before.entries = front ++ (name, domain) :: back ∧ domain.key = key ∧
    after.entries
      = front ++ (name, { domain with subordinateHosts := domain.subordinateHosts.insert hostName }) :: back

/-- A store has gained the rows of a new host, and nothing else. -/
structure Gains (s t : Store) (host : Host) (entry : HistoryEntry) : Prop where
  hosts (name : String) : t.hosts.get? name
    = if name = host.name.text then some (s.hostsNamed name ++ [host]) else s.hosts.get? name
  hostVersions (name : String) : t.hostVersions.get? name
    = if name = host.name.text then some (s.hostVersion name + 1) else s.hostVersions.get? name
  history : t.history = s.history ++ [entry]
  domains : (host.superordinate = none ∧ t.domains = s.domains) ∨
    ∃ key, host.superordinate = some key ∧ GainsHost s.domains t.domains key host.name.text
  domainVersions : t.domainVersions = s.domainVersions
  zones : t.zones = s.zones
  billing : t.billing = s.billing

theorem gainsHost_linkHost (s : Store) (key : DomainKey) (hostName : String) :
    GainsHost s.domains (s.apply (.linkHost key hostName)).domains key hostName := by
  rcases Table.updateFirstEntry_cases (fun d : Domain => d.key = key) (fun d => d.addSubordinate hostName)
    s.domains.entries with hsame | ⟨front, name, domain, back, hbefore, hkey, hafter⟩
  · exact .inl (congrArg Table.mk hsame)
  · exact .inr ⟨front, name, domain, back, hbefore, of_decide_eq_true hkey, hafter⟩

end Store

namespace Create

/-- What the writes of a create add to a store. -/
theorem gains_writes (s : Store) (created : Created) :
    s.Gains (s.applyAll created.writes) created.host created.history := by
  have hhosts (name : String) : (s.putHost created.host).hosts.get? name = if name = created.host.name.text then
      some (s.hostsNamed name ++ [created.host]) else s.hosts.get? name := by
    rw [Store.putHost, Table.get?_alter]
    split
    · next hname => rw [hname]; rfl
    · rfl
  have hversions (name : String) : (s.putHost created.host).hostVersions.get? name =
      if name = created.host.name.text then some (s.hostVersion name + 1) else s.hostVersions.get? name := by
    rw [Store.putHost, Store.bump, Table.get?_alter]
    split
    · next hname => rw [hname]; rfl
    · rfl
  rw [Created.writes]
  cases hkey : created.host.superordinate with
  | none => exact ⟨hhosts, hversions, rfl, .inl ⟨hkey, rfl⟩, rfl, rfl, rfl⟩
  | some key =>
      have hlinked := s.gainsHost_linkHost key created.host.name.text
      exact ⟨hhosts, hversions, rfl, .inr ⟨key, hkey, hlinked⟩, rfl, rfl, rfl⟩

/-- In every run of creates, edits and turns in any order: from any moment to a later one the history and the rows of
each host name only grow at their ends, and the turns of a create leave the store as it was, but for the commit, which
adds the rows of the host that was asked for and nothing else. -/
theorem createHost_frames (w : World) (acts : List Act) :
    (∀ before between after, acts = before ++ between ++ after →
      let earlier := ((opened w).play (moves before)).world.store
      let later := ((opened w).play (moves (before ++ between))).world.store
      earlier.history <+: later.history ∧ ∀ name, earlier.hostsNamed name <+: later.hostsNamed name) ∧
    ∀ number turn, (number, turn) ∈ (opened w).turns (moves acts) →
      (turn.commits = false ∧ turn.after.store = turn.world.store) ∨
      ∃ q host entry, (requested acts)[number]? = some q ∧ HostName.parse q.command.hostName = .ok host.name ∧
        turn.world.store.Gains turn.after.store host entry := by
  refine ⟨fun before between after hacts => ?_, fun number turn hturn => ?_⟩
  · have hgrown : ((opened w).play (moves before)).world.store.Later
        (((opened w).play (moves before)).play (moves between)).world.store :=
      Registry.changes_play (c := .anyone) (admits_moves (anyone_admits between))
    rw [moves_append, Registry.play_append]
    exact ⟨hgrown.history, hgrown.hosts⟩
  · cases hcommits : turn.commits with
    | false => exact .inl ⟨rfl, Turn.store_after_of_not_commits hcommits⟩
    | true =>
        obtain ⟨q, u, client, name, zone, placement, addresses, attempt, created, hq, -, hmakes, -⟩ :=
          makes_of_mem_commits Company.anyone_grows ⟨.calm, trivial⟩ (anyone_admits acts)
            (Registry.mem_commits.2 ⟨hturn, hcommits⟩)
        refine .inr ⟨q, created.host, created.history, hq, ?_, ?_⟩
        · rw [hmakes.name_eq]
          exact hmakes.parse_eq
        · rw [hmakes.store_after]
          exact gains_writes turn.world.store created

end Create

end Bailiwick
