import Bailiwick.Proofs.Create.Outcome
import Bailiwick.Proofs.Create.Superordinate
import Bailiwick.Proofs.RunStores

/-!
Where a create puts a host in a run. The zones of a registry are read one by one before the transaction, and no
transaction reads a zone. So the zone that a host falls under is the first of its suffixes that was managed when
the request asked for it; the domain above the host is the one that the commit finds.
-/

namespace Bailiwick

namespace Registry

variable {α : Type} {r : Registry α} {here rest : List (Move α)} {number : Nat} {zone : String} {managed : Bool}

/-- In a run a request has asked whether a zone is managed, and the store that it met said so or not. -/
def Asked (r : Registry α) (moves : List (Move α)) (number : Nat) (zone : String) (managed : Bool) : Prop :=
  ∃ turn, (number, turn) ∈ r.turns moves ∧ turn.op = .isManaged zone ∧ turn.world.store.isManaged zone = managed

theorem Asked.append (h : r.Asked here number zone managed) : r.Asked (here ++ rest) number zone managed := by
  obtain ⟨turn, hturn, hop, hanswer⟩ := h
  refine ⟨turn, ?_, hop, hanswer⟩
  rw [turns_append]
  exact List.mem_append_left _ hturn

theorem Asked.prepend (h : (r.play here).Asked rest number zone managed) :
    r.Asked (here ++ rest) number zone managed := by
  obtain ⟨turn, hturn, hop, hanswer⟩ := h
  refine ⟨turn, ?_, hop, hanswer⟩
  rw [turns_append]
  exact List.mem_append_right _ hturn

/-- The answer to a question was so between the start and the end of the run. -/
theorem Asked.meanwhile {moves : List (Move α)} (h : r.Asked moves number zone managed) :
    Company.anyone.Meanwhile r.world (r.play moves).world fun s => s.isManaged zone = managed := by
  obtain ⟨turn, hturn, -, hanswer⟩ := h
  have hsince := changes_of_mem_turns (fun m _ => Company.anyone_admits m) hturn
  have hleft := turn.world.later_perform turn.surroundings turn.op
  exact ⟨turn.world, hsince, hleft.trans (later_of_mem_turns hturn), hanswer⟩

end Registry

namespace Create

variable {q : Request} {w : World} {acts : List Act} {number : Nat} {turn : Turn} {client : ClientId}
  {name : HostName} {r : Registry (Except Refusal Response)} {run : List (Move (Except Refusal Response))}

/-- The stages of a request that has a client and a name start with the search for the zone. -/
theorem Request.stages_eq (hclient : q.context.client = some client)
    (hname : HostName.parse q.command.hostName = .ok name) :
    q.stages = firstManagedZone name.properSuffixes >>= q.place client name := by
  rw [stages, hclient, hname]
  rfl

theorem Request.finish_firstManagedZone_cons (q : Request) (zone : String) (shorter : List String)
    (f : Option String → Flow Response) :
    q.finish (firstManagedZone (zone :: shorter) >>= f) = .step (.isManaged zone) fun answer =>
      match answer with
      | .error fault => q.finish (throw (.fault fault))
      | .ok true => q.finish (f (some zone))
      | .ok false => q.finish (firstManagedZone shorter >>= f) := by
  change Work.step (.isManaged zone) _ = _
  congr 1
  funext answer
  cases answer with
  | error fault => rfl
  | ok managed => cases managed <;> rfl

/-- A request that is refused before its transaction has no commit ahead of it. -/
theorem not_mem_commits_of_throw {refusal : Refusal}
    (hp : r.requests[number]? = some (q.finish (throw refusal))) : (number, turn) ∉ r.commits run := by
  intro hcommit
  have hthrow : (q.finish (throw refusal)).Ensures Company.anyone
      (fun turns now result => ∃ v trail, turns = [] ∧ Company.anyone.changes v now) r.world :=
    ensures_finish (Q := fun turns _ _ _ => turns = []) (Flow.ensures_throw fun _ _ => rfl)
  obtain ⟨turns, _, _, ⟨-, -, rfl, -⟩, hmem⟩ := Registry.exists_mem_of_mem_commits hp hthrow hcommit
  cases hmem

/-- A request that commits after a search for its zone goes on with the zone that the search has found. -/
theorem exists_search {f : Option String → Flow Response} {suffixes : List String}
    (hp : r.requests[number]? = some (q.finish (firstManagedZone suffixes >>= f)))
    (h : (number, turn) ∈ r.commits run) :
    ∃ here rest zone, run = here ++ rest ∧ Searched (r.Asked here number) suffixes zone ∧
      (r.play here).requests[number]? = some (q.finish (f zone)) ∧
      (number, turn) ∈ (r.play here).commits rest := by
  induction suffixes generalizing r run with
  | nil => exact ⟨[], run, none, rfl, .exhausted, hp, h⟩
  | cons candidate shorter ih =>
      rw [Request.finish_firstManagedZone_cons] at hp
      obtain ⟨here, rest, u, surroundings, rfl, hturn, hnext, hcommit⟩ :=
        Registry.exists_next_turn hp (fun a hop => by cases hop) h
      have hasked : r.Asked here number candidate (u.store.isManaged candidate) := ⟨_, hturn, rfl, rfl⟩
      rw [World.perform, World.reach] at hnext
      cases houtage : surroundings.outage .zone with
      | some fault =>
          rw [houtage] at hnext
          exact absurd hcommit (not_mem_commits_of_throw hnext)
      | none =>
          rw [houtage] at hnext
          cases hmanaged : u.store.isManaged candidate with
          | true =>
              rw [hmanaged] at hnext hasked
              exact ⟨here, rest, some candidate, rfl, .found hasked, hnext, hcommit⟩
          | false =>
              rw [hmanaged] at hnext hasked
              obtain ⟨here', rest', zone, rfl, hsearched, hnext', hcommit'⟩ := ih hnext hcommit
              rw [← Registry.play_append] at hnext' hcommit'
              refine ⟨here ++ here', rest', zone, (List.append_assoc here here' rest').symm, ?_, hnext', hcommit'⟩
              exact .passed hasked.append (hsearched.mono fun _ _ hlater => hlater.prepend)

/-- A committed create has gone through a search for its zone, and has then been placed. -/
theorem exists_zone (hq : (requested acts)[number]? = some q) (hclient : q.context.client = some client)
    (hname : HostName.parse q.command.hostName = .ok name)
    (h : (number, turn) ∈ (opened w).commits (moves acts)) :
    ∃ here rest zone, moves acts = here ++ rest ∧
      Searched ((opened w).Asked here number) name.properSuffixes zone ∧
      ((opened w).play here).requests[number]? = some (q.finish (q.place client name zone)) ∧
      (number, turn) ∈ ((opened w).play here).commits rest := by
  obtain ⟨here, rest, rfl, hp, hnone⟩ := exists_submission (r := opened w) hq
  have hnumber : (opened w).requests.length + number = number := Nat.zero_add number
  rw [hnumber] at hp hnone
  rw [moves_append, Registry.commits_append] at h
  have hlater := (List.mem_append.1 h).resolve_left fun hearly => hnone turn (Registry.mem_commits.1 hearly).1
  rw [Request.work_eq] at hp
  obtain ⟨received, rest', _, _, hrest, -, hstages, hlater⟩ :=
    Registry.exists_next_turn hp (fun a hop => by cases hop) hlater
  rw [Request.stages_eq hclient hname] at hstages
  obtain ⟨searching, after, zone, rfl, hsearched, hplace, hcommit⟩ := exists_search hstages hlater
  simp only [← Registry.play_append] at hsearched hplace hcommit
  refine ⟨moves here ++ received ++ searching, after, zone, ?_, ?_, hplace, hcommit⟩
  · rw [moves_append, hrest]
    simp only [List.append_assoc]
  · exact hsearched.mono fun _ _ hasked => hasked.prepend

/-- A committed create is placed by the zone that it has found on its search. -/
theorem exists_makes (h : (number, turn) ∈ (opened w).commits (moves acts)) :
    ∃ q client name zone placement addresses attempt created, (requested acts)[number]? = some q ∧
      Searched ((opened w).Asked (moves acts) number) name.properSuffixes zone ∧
      Makes Company.anyone q w turn client name zone placement addresses attempt created := by
  obtain ⟨q, _, client, name, _, _, _, _, _, hq, -, hfirst, -⟩ :=
    makes_of_mem_commits Company.anyone_grows ⟨.calm, trivial⟩ (anyone_admits acts) h
  obtain ⟨here, rest, zone, hmoves, hsearched, hp, hcommit⟩ := exists_zone hq hfirst.client_eq hfirst.parse_eq h
  have hscanned : Scanned Company.anyone w ((opened w).play here).world name.properSuffixes zone :=
    hsearched.mono fun _ _ hasked => hasked.meanwhile
  have hsince : Company.anyone.changes w ((opened w).play here).world :=
    Registry.changes_play (r := opened w) fun m _ => Company.anyone_admits m
  have hplace := ensures_place Company.anyone_grows hsince ⟨hfirst.client_eq, hfirst.parse_eq, hscanned⟩
  obtain ⟨turns, _, _, ⟨v, trail, hcourse, -⟩, hmem⟩ :=
    Registry.exists_mem_of_mem_commits hp (ensures_finish hplace) hcommit
  obtain ⟨client', name', placement, addresses, attempt, created, hmakes, -⟩ :=
    hcourse.makes_of_mem hmem (Registry.mem_commits.1 hcommit).2
  obtain rfl := Except.ok.inj (hfirst.parse_eq.symm.trans hmakes.parse_eq)
  refine ⟨q, client', name, zone, placement, addresses, attempt, created, hq, ?_, hmakes⟩
  rw [hmoves]
  exact hsearched.mono fun _ _ hasked => hasked.append

/-- A search in descending order stops no later than at a zone that it has not seen unmanaged. -/
theorem Searched.le_of_not_seen {seen : String → Bool → Prop} {suffixes : List String} {zone : Option String}
    (h : Searched seen suffixes zone)
    (hsorted : suffixes.Pairwise fun longer shorter => HostName.countLabels shorter < HostName.countLabels longer)
    {z : String} (hz : z ∈ suffixes) (hnot : ¬ seen z false) :
    ∃ found, zone = some found ∧ (found = z ∨ HostName.countLabels z < HostName.countLabels found) := by
  induction h with
  | exhausted => cases hz
  | found =>
      rcases List.mem_cons.1 hz with rfl | hlater
      · exact ⟨_, rfl, .inl rfl⟩
      · exact ⟨_, rfl, .inr (List.rel_of_pairwise_cons hsorted hlater)⟩
  | passed hseen _ ih =>
      rcases List.mem_cons.1 hz with rfl | hlater
      · exact absurd hseen hnot
      · exact ih (List.pairwise_cons.1 hsorted).2 hlater

/-- The zone that a search has found is the nearest one on a store where it is still managed, unless the search
has seen the nearest one unmanaged. -/
theorem Searched.nearest_or_missed {seen : String → Bool → Prop} {zone : Option String} {s : Store}
    (h : Searched seen name.properSuffixes zone) (hmanaged : ∀ z, zone = some z → s.isManaged z = true) :
    NearestZone s name zone ∨ ∃ missed, NearestZone s name (some missed) ∧ seen missed false := by
  have hnearest := nearestZone_zoneOf s name
  cases hzone : s.zoneOf name with
  | none =>
      rw [hzone] at hnearest
      cases zone with
      | none => exact .inl hnearest
      | some found =>
          have hunmanaged := hnearest found h.mem_and_seen.1
          rw [hmanaged found rfl] at hunmanaged
          cases hunmanaged
  | some z =>
      rw [hzone] at hnearest
      by_cases hmissed : seen z false
      · exact .inr ⟨z, hnearest, hmissed⟩
      · have ⟨hz, _, hmost⟩ := hnearest
        obtain ⟨found, rfl, hfound⟩ := h.le_of_not_seen name.pairwise_properSuffixes hz hmissed
        rcases hfound with rfl | hlonger
        · exact .inl hnearest
        · have hle := hmost found h.mem_and_seen.1 (hmanaged found rfl)
          omega

/-- A host stands where a managed zone of its name puts it: under the domain that has one label more than the
zone, or under none where there is no zone. -/
def Places (s : Store) (host : Host) : Option String → Prop
  | none => host.superordinate = none
  | some zone => ∃ domain, s.domains.get? (superordinateName host.name zone) = some domain ∧
      host.superordinate = some domain.key

theorem Belongs.places {s : Store} {instant : Instant} {host : Host} {zone : Option String}
    (h : Belongs s instant host zone) : Places s host zone := by
  cases h with
  | external hkey haddresses => exact hkey
  | subordinate hdeep hfound halive hkey haddresses => exact ⟨_, (Option.filter_eq_some_iff.1 hfound).1, hkey⟩

/-- In every run of creates, edits and turns in any order a committed host stands where a zone puts it that is
still managed, the first of the suffixes of its name that was managed when the request asked for it. That is the
nearest zone of the name at the commit, unless the request had asked for that one before it was managed. -/
theorem createHost_placed {w : World} (hbuilt : w.store.Built) {acts : List Act} {number : Nat} {turn : Turn}
    (hturn : (number, turn) ∈ (opened w).commits (moves acts)) :
    ∃ q host zone, (requested acts)[number]? = some q ∧ HostName.parse q.command.hostName = .ok host.name ∧
      turn.hosts = [host] ∧ Searched ((opened w).Asked (moves acts) number) host.name.properSuffixes zone ∧
      (∀ z, zone = some z → turn.world.store.isManaged z = true) ∧ Places turn.world.store host zone ∧
      (NearestZone turn.world.store host.name zone ∨
        ∃ missed, NearestZone turn.world.store host.name (some missed) ∧
          (opened w).Asked (moves acts) number missed false) := by
  obtain ⟨q, client, name, zone, placement, addresses, attempt, created, hq, hsearched, hmakes⟩ :=
    exists_makes hturn
  have hbelongs := hmakes.belongs Company.anyone_grows hbuilt.orderly
  have hmanaged : ∀ z, zone = some z → turn.world.store.isManaged z = true :=
    fun z hzone => (hmakes.managed Company.anyone_grows hzone).2
  have hparse := hmakes.parse_eq
  rw [← hmakes.name_eq] at hparse hsearched
  exact ⟨q, created.host, zone, hq, hparse, hosts_eq_of_writes_eq hmakes.writes_eq, hsearched, hmanaged,
    hbelongs.places, hsearched.nearest_or_missed hmanaged⟩

theorem createHost_placed_racing :
    delegated.Built ∧ ∃ turn host, (0, turn) ∈ (opened { store := delegated }).commits (moves racing) ∧
      turn.hosts = [host] ∧ ∃ zone, Places turn.world.store host zone := by
  have hrun : ∃ step ∈ (opened { store := delegated }).commits (moves racing), step.1 = 0 := by decide +kernel
  obtain ⟨⟨_, turn⟩, hturn, rfl⟩ := hrun
  obtain ⟨q, host, zone, -, -, hhost, -, -, hplaces, -⟩ := createHost_placed built_delegated hturn
  exact ⟨built_delegated, turn, host, hturn, hhost, zone, hplaces⟩

/-- A zone and two domains, one below the other. -/
def nested : Store :=
  ((Store.empty.edit (.addZone "tld")).edit
    (.putDomain (.new ⟨.ofNat 7⟩ "bar.tld" ⟨"TheRegistrar"⟩ .epoch))).edit
      (.putDomain (.new ⟨.ofNat 8⟩ "foo.bar.tld" ⟨"TheRegistrar"⟩ .epoch))

/-- A domain becomes a zone after a request has asked whether it is one. -/
def rezoned : List Act :=
  let q := glued ⟨"TheRegistrar"⟩ [⟨.v4, "192.0.2.2"⟩]
  [.submit { q with command := { q.command with hostName := "ns1.foo.bar.tld" } }]
    ++ List.replicate 5 (.turn 0 .calm) ++ [.edit (.addZone "bar.tld")] ++ List.replicate 20 (.turn 0 .calm)

/-- The search for the zone is not repeated in the transaction: a host can be committed under a domain that the
nearest zone of its name does not put it under. -/
theorem createHost_misplaced :
    nested.Built ∧ ∃ turn host, (0, turn) ∈ (opened { store := nested }).commits (moves rezoned) ∧
      turn.hosts = [host] ∧ NearestZone turn.world.store host.name (some "bar.tld") ∧
      ¬ Places turn.world.store host (some "bar.tld") := by
  have hrun : ∃ step ∈ (opened { store := nested }).commits (moves rezoned), step.1 = 0 ∧
      ∃ host ∈ step.2.hosts, step.2.hosts = [host] ∧ host.superordinate = some ⟨.ofNat 7⟩ ∧
        step.2.world.store.zoneOf host.name = some "bar.tld" ∧
        (step.2.world.store.domains.get? (superordinateName host.name "bar.tld")).map Domain.key
          = some ⟨.ofNat 8⟩ := by
    decide +kernel
  obtain ⟨⟨_, turn⟩, hturn, rfl, host, -, hhost, hkey, hzone, hdomain⟩ := hrun
  have hnearest := nearestZone_zoneOf turn.world.store host.name
  rw [hzone] at hnearest
  have hbuilt : nested.Built := .edit (.edit (.edit .empty _) _) _
  refine ⟨hbuilt, turn, host, hturn, hhost, hnearest, ?_⟩
  rintro ⟨domain, hfound, hsame⟩
  rw [hfound, Option.map_some] at hdomain
  rw [hkey, hdomain] at hsame
  exact absurd hsame (by decide)

end Create

end Bailiwick
