import Bailiwick.Proofs.Create.Runs

/-!
The uniqueness of host names under any race. A create commits only where its name is free at its own time, and
the row that it writes has no deletion time and is never removed; so of all the creates of a name in a run one
commits at most, whatever clocks the requests read.
-/

namespace Bailiwick

/-- A name is free where every row stored under it is a tombstone. -/
theorem Store.activeHost_eq_none_iff {s : Store} {name : String} {now : Instant} :
    s.activeHost name now = none ↔ ∀ host ∈ s.hostsNamed name, host.isActiveAt now = false := by
  simp only [activeHost, List.find?_eq_none, List.mem_reverse, Bool.not_eq_true]

/-- The host that holds a name is stored under it and active. -/
theorem Store.mem_of_activeHost {s : Store} {name : String} {now : Instant} {host : Host}
    (h : s.activeHost name now = some host) : host ∈ s.hostsNamed name ∧ host.isActiveAt now = true := by
  rw [activeHost] at h
  have hactive := List.find?_some h
  exact ⟨List.mem_reverse.1 (List.mem_of_find?_eq_some h), hactive⟩

namespace Create

variable {name : HostName} {addresses : List IpAddress} {client : ClientId} {now : Instant} {correlation : Uuid}
  {ids : FreshIds} {s : Store} {domainName : Option String} {created : Created}

/-- What a create writes it writes for a free name and for the domain that the store has. -/
theorem decideOn_eq_ok (h : decideOn name addresses client now correlation ids s domainName = .ok created) :
    s.activeHost name.text now = none ∧ ∃ key, superordinateOn s domainName now = .ok key ∧
      created = Created.new ids name addresses key client now correlation := by
  rw [decideOn] at h
  cases hheld : s.activeHost name.text now with
  | some host =>
      rw [hheld] at h
      cases h
  | none =>
      rw [hheld] at h
      cases hkey : superordinateOn s domainName now with
      | error refusal =>
          rw [hkey] at h
          cases h
      | ok key =>
          rw [hkey] at h
          exact ⟨rfl, key, rfl, (Except.ok.inj h).symm⟩

/-- A create names a domain by its key only where the domain is active and not in pending delete. -/
theorem superordinateOn_eq_ok {name : String} {key : Option DomainKey}
    (h : superordinateOn s (some name) now = .ok key) :
    ∃ domain, s.activeDomain name now = some domain ∧ domain.isPendingDelete = false ∧
      key = some domain.key := by
  rw [superordinateOn] at h
  cases hfound : s.activeDomain name now with
  | none =>
      rw [hfound] at h
      cases h
  | some domain =>
      rw [hfound, checkSuperordinate] at h
      cases hpending : domain.isPendingDelete with
      | true =>
          simp only [hpending, if_true] at h
          cases h
      | false =>
          simp only [hpending, Bool.false_eq_true, if_false] at h
          exact ⟨domain, rfl, hpending, (Except.ok.inj h).symm⟩

/-- A create stores one row, behind those of its name. -/
theorem hostsNamed_writes (s : Store) (created : Created) (name : String) :
    (s.applyAll created.writes).hostsNamed name
      = s.hostsNamed name ++ if name = created.host.name.text then [created.host] else [] := by
  rw [Store.hostsNamed_applyAll, Created.writes]
  congr 1
  by_cases hname : name = created.host.name.text
  · cases created.host.superordinate <;> simp [Store.hostsAmong, hname]
  · cases created.host.superordinate <;> simp [Store.hostsAmong, hname]

/-- The row of a create is stored under its name. -/
theorem mem_hostsNamed_writes (s : Store) (created : Created) :
    created.host ∈ (s.applyAll created.writes).hostsNamed created.host.name.text := by
  rw [hostsNamed_writes, if_pos rfl]
  exact List.mem_append_right _ (List.mem_singleton_self created.host)

/-- A committed create leaves a row under its name that is active at all times. -/
theorem Makes.exists_active {c : Company} {q : Request} {w : World} {turn : Turn} {zone : Option String}
    {placement : Placement} {attempt : Nat}
    (h : Makes c q w turn client name zone placement addresses attempt created) :
    ∃ host ∈ turn.after.store.hostsNamed name.text, ∀ instant, host.isActiveAt instant = true := by
  obtain ⟨-, key, -, hcreated⟩ := decideOn_eq_ok h.decide_eq
  have hname : created.host.name = name := by rw [hcreated]; rfl
  refine ⟨created.host, ?_, fun instant => ?_⟩
  · rw [h.store_after, ← hname]
    exact mem_hostsNamed_writes turn.world.store created
  · rw [hcreated]
    rfl

variable {w : World} {acts : List Act}

theorem anyone_admits (acts : List Act) : ∀ act ∈ acts, Company.anyone.Admits act.move :=
  fun act _ => Company.anyone_admits act.move

/-- Where a create commits its name is free at its time. -/
theorem free_of_mem_commits {number : Nat} {turn : Turn} (h : (number, turn) ∈ (opened w).commits (moves acts)) :
    ∃ q name, (requested acts)[number]? = some q ∧ HostName.parse q.command.hostName = .ok name ∧
      turn.world.store.activeHost name.text q.context.now = none := by
  obtain ⟨q, u, client, name, zone, placement, addresses, attempt, created, hq, -, hmakes, -⟩ :=
    makes_of_mem_commits Company.anyone_grows ⟨.calm, trivial⟩ (anyone_admits acts) h
  exact ⟨q, name, hq, hmakes.parse_eq, (decideOn_eq_ok hmakes.decide_eq).1⟩

/-- The row of a committed create is met by every later commit. -/
theorem pairwise_commits (w : World) (acts : List Act) :
    ((opened w).commits (moves acts)).Pairwise fun earlier later => ∀ q q',
      (requested acts)[earlier.1]? = some q → (requested acts)[later.1]? = some q' →
        HostName.parse q.command.hostName ≠ HostName.parse q'.command.hostName := by
  have hordered := (Registry.pairwise_turns (r := opened w) (admits_moves (anyone_admits acts))).filter
    fun step => step.2.commits
  refine hordered.imp_of_mem ?_
  rintro ⟨k, earlier⟩ ⟨k', later⟩ hearlier hlater hgrown q q' hq hq' hsame
  obtain ⟨q₁, _, _, name, _, _, _, _, created, hq₁, -, hfirst, -⟩ :=
    makes_of_mem_commits Company.anyone_grows ⟨.calm, trivial⟩ (anyone_admits acts) hearlier
  obtain ⟨q₂, name', hq₂, hparse, hfree⟩ := free_of_mem_commits hlater
  obtain rfl := Option.some.inj (hq₁.symm.trans hq)
  obtain rfl := Option.some.inj (hq₂.symm.trans hq')
  rw [← hsame, hfirst.parse_eq] at hparse
  obtain rfl := Except.ok.inj hparse
  obtain ⟨host, hhost, hactive⟩ := hfirst.exists_active
  have hstored : host ∈ later.world.store.hostsNamed name.text := (hgrown.hosts name.text).subset hhost
  have htombstone := Store.activeHost_eq_none_iff.1 hfree host hstored
  rw [hactive] at htombstone
  cases htombstone

/-- In every run of creates, edits and turns in any order: where a create commits, no row of its name is active
at its time, and of all creates of one name one commits at most. -/
theorem createHost_unique (w : World) (acts : List Act) :
    (∀ number turn, (number, turn) ∈ (opened w).commits (moves acts) →
      ∃ q name, (requested acts)[number]? = some q ∧ HostName.parse q.command.hostName = .ok name ∧
        ∀ host ∈ turn.world.store.hostsNamed name.text, host.isActiveAt q.context.now = false) ∧
    ((opened w).commits (moves acts)).Pairwise fun earlier later => ∀ q q',
      (requested acts)[earlier.1]? = some q → (requested acts)[later.1]? = some q' →
        HostName.parse q.command.hostName ≠ HostName.parse q'.command.hostName := by
  refine ⟨fun number turn hmem => ?_, pairwise_commits w acts⟩
  obtain ⟨q, name, hq, hparse, hfree⟩ := free_of_mem_commits hmem
  exact ⟨q, name, hq, hparse, Store.activeHost_eq_none_iff.1 hfree⟩

end Create

end Bailiwick
