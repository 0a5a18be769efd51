import Bailiwick.Proofs.Create.Contest
import Bailiwick.Proofs.Create.Span

/-!
A created name stays taken. The row of a create has no deletion time and no later create of its name commits, so as
long as nobody puts a row under the name the newest row is the created one, and it is active at every clock. Whoever
asks for the name later is told so before the transaction.
-/

namespace Bailiwick

open Deed Transaction

/-- A newest row that is active holds the name, whatever older rows there are. -/
theorem Store.activeHost_of_getLast? {s : Store} {name : String} {now : Instant} {host : Host}
    (h : (s.hostsNamed name).getLast? = some host) (hactive : host.isActiveAt now = true) :
    s.activeHost name now = some host := by
  obtain ⟨rows, hrows⟩ := List.getLast?_eq_some_iff.1 h
  rw [activeHost, hrows, List.reverse_append]
  exact List.find?_cons_of_pos hactive

/-- Whether a refusal is one of the checks before the one on uniqueness: on login, name, depth, placement and
addresses. -/
def Refusal.isPreliminary : Refusal → Bool
  | .superordinateDomainDoesNotExist _ => true
  | refusal => refusal.isFormal

theorem Refusal.isPreliminary_of_isFormal {refusal : Refusal} (h : refusal.isFormal = true) :
    refusal.isPreliminary = true := by
  cases refusal with
  | superordinateDomainDoesNotExist _ => rfl
  | _ => exact h

theorem Registry.exists_of_mem_stores {α : Type} {r : Registry α} {moves : List (Move α)} {s : Store}
    (h : s ∈ r.stores moves) : ∃ front back, moves = front ++ back ∧ s = (r.play front).world.store := by
  induction moves generalizing r with
  | nil => exact ⟨[], [], rfl, List.mem_singleton.1 h⟩
  | cons m moves ih =>
      rcases List.mem_cons.1 h with rfl | hlater
      · exact ⟨[], m :: moves, rfl, rfl⟩
      · obtain ⟨front, back, rfl, hs⟩ := ih hlater
        exact ⟨m :: front, back, rfl, hs⟩

namespace Create

variable {w u v : World} {before between during rest : List Act} {act : Act} {number : Nat} {turn : Turn}
  {q q' : Request} {name : HostName} {S : Store → Prop} {T : Surroundings → Prop} {refusal : Refusal}

/-- A name is held by a row that is the newest and active at all times. -/
def HeldBy (name : HostName) (host : Host) (s : Store) : Prop :=
  (s.hostsNamed name.text).getLast? = some host ∧ ∀ now, host.isActiveAt now = true

theorem HeldBy.activeHost_eq {host : Host} {s : Store} (h : HeldBy name host s) (now : Instant) :
    s.activeHost name.text now = some host :=
  Store.activeHost_of_getLast? h.1 (h.2 now)

/-- After a commit of a name nothing is done that raises the version of the name, unless a row is put under it. -/
theorem notMem_bumps_after_commit (hcommit : ((opened w).play (moves before)).commit? act.move = some (number, turn))
    (hq : (requested before)[number]? = some q) (hname : HostName.parse q.command.hostName = .ok name)
    (hput : ∀ host : Host, host.name = name → Act.edit (.putHost host) ∉ rest) {deed : Deed}
    (hdeed : deed ∈ (((opened w).play (moves before)).move act.move).deeds (moves rest)) :
    ReadKey.host name.text ∉ deed.bumps := by
  intro hkey
  have hall : deed ∈ (opened w).deeds (moves (before ++ act :: rest)) := by
    rw [moves_append, Registry.deeds_append]
    exact List.mem_append_right _ (List.mem_append_right _ hdeed)
  cases deed with
  | edit e =>
      obtain ⟨act', hact', hedit⟩ := List.mem_map.1 (Registry.edit_mem_of_mem_deeds hdeed)
      cases act' with
      | edit e' =>
          obtain rfl := Move.edit.inj hedit
          cases e' with
          | addZone zone => cases hkey
          | putDomain domain => cases List.mem_singleton.1 hkey
          | putHost host =>
              have htext := ReadKey.host.inj (List.mem_singleton.1 hkey)
              exact hput host (HostName.text_injective htext.symm) hact'
      | _ => cases hedit
  | turn k later =>
      obtain ⟨hlater, q', name', hq', hname', hsame, -⟩ := commit_of_bump hall hkey
      obtain rfl := HostName.text_injective (ReadKey.host.inj hsame)
      -- The two commits are of different requests for one name, one after the other.
      have hordered := pairwise_commits w (before ++ act :: rest)
      rw [moves_append, Registry.commits_append, moves_cons, Registry.commits_cons_of_commit? hcommit] at hordered
      have hrest := (List.pairwise_append.1 hordered).2.1
      have hmem : (k, later) ∈ (((opened w).play (moves before)).move act.move).commits (moves rest) :=
        Registry.mem_commits.2 ⟨Registry.mem_deeds.1 hdeed, (Registry.mem_commits.1 hlater).2⟩
      have hfirst : (requested (before ++ act :: rest))[number]? = some q := by
        rw [requested_append, List.getElem?_append_left (List.getElem?_eq_some_iff.1 hq).1]
        exact hq
      exact (List.pairwise_cons.1 hrest).1 (k, later) hmem q q' hfirst hq' (hname.trans hname'.symm)

/-- From a commit on the created row holds its name, as long as no row is put under it. -/
theorem heldBy_after_commit (hcommit : ((opened w).play (moves before)).commit? act.move = some (number, turn))
    (hq : (requested before)[number]? = some q) (hname : HostName.parse q.command.hostName = .ok name) :
    ∃ host : Host, q.context.client = some host.sponsor ∧ ∀ rest : List Act,
      (∀ host : Host, host.name = name → Act.edit (.putHost host) ∉ rest) →
        HeldBy name host ((opened w).play (moves (before ++ act :: rest))).world.store := by
  obtain ⟨hturn, hcommits⟩ := Option.filter_eq_some_iff.1 hcommit
  obtain ⟨-, -, hafter⟩ := Registry.world_of_turn? hturn
  have hmem : (number, turn) ∈ (opened w).commits (moves (before ++ [act])) := by
    rw [moves_append, Registry.commits_append, moves_cons, Registry.commits_cons_of_commit? hcommit]
    exact List.mem_append_right _ List.mem_cons_self
  obtain ⟨q₁, u, client, name₁, zone, placement, addresses, attempt, created, hq₁, -, hmakes, -⟩ :=
    makes_of_mem_commits Company.anyone_grows ⟨.calm, trivial⟩ (anyone_admits _) hmem
  rw [requested_append, List.getElem?_append_left (List.getElem?_eq_some_iff.1 hq).1] at hq₁
  obtain rfl := Option.some.inj (hq₁.symm.trans hq)
  obtain rfl := Except.ok.inj (hmakes.parse_eq.symm.trans hname)
  obtain ⟨-, key, -, hcreated⟩ := decideOn_eq_ok hmakes.decide_eq
  refine ⟨created.host, ?_, fun rest hput => ⟨?_, fun now => ?_⟩⟩
  · rw [hmakes.client_eq, hcreated]
    rfl
  · obtain ⟨hunbroken, hlast⟩ := (((opened w).play (moves before)).move act.move).unbroken_deeds (moves rest)
    have hversion := (hunbroken.version_through_eq_iff (.host name₁.text)).2 fun deed hdeed =>
      notMem_bumps_after_commit hcommit hq hname hput hdeed
    have hrows := hunbroken.later.hosts_eq name₁.text hversion
    rw [hlast, ← hafter, hmakes.store_after, hostsNamed_writes, hmakes.name_eq, if_pos rfl] at hrows
    have hplay : (opened w).play (moves (before ++ act :: rest))
        = (((opened w).play (moves before)).move act.move).play (moves rest) := by
      rw [moves_append, Registry.play_append]
      rfl
    rw [hplay, hrows]
    exact List.getLast?_concat
  · rw [hcreated]
    rfl

/-- From a commit on the created row holds its name also in every store that a later request may meet. -/
theorem heldBy_while_submitted {between during : List Act} {q' : Request}
    (hcommit : ((opened w).play (moves before)).commit? act.move = some (number, turn))
    (hq : (requested before)[number]? = some q) (hname : HostName.parse q.command.hostName = .ok name)
    (hput : ∀ host : Host, host.name = name → Act.edit (.putHost host) ∉ between ++ during) :
    ∃ host : Host, q.context.client = some host.sponsor ∧
      ∀ s ∈ ((opened w).play (moves (before ++ act :: between ++ [.submit q']))).stores (moves during),
        HeldBy name host s := by
  obtain ⟨host, hclient, hholds⟩ := heldBy_after_commit hcommit hq hname
  refine ⟨host, hclient, fun s hs => ?_⟩
  obtain ⟨front, back, hsplit, rfl⟩ := Registry.exists_of_mem_stores hs
  obtain ⟨front, back, rfl, rfl, rfl⟩ := List.map_eq_append_iff.1 hsplit
  have hheld := hholds (between ++ .submit q' :: front) fun row hrow hmem => by
    refine hput row hrow ?_
    rcases List.mem_append.1 hmem with hbetween | hfront
    · exact List.mem_append_left _ hbetween
    · exact List.mem_append_right _ (List.mem_append_left _ ((List.mem_cons.1 hfront).resolve_left nofun))
  have hthen : before ++ act :: (between ++ .submit q' :: front)
      = before ++ act :: between ++ [.submit q'] ++ front := by
    simp only [List.append_assoc, List.cons_append, List.nil_append]
  rw [hthen, moves_append, Registry.play_append] at hheld
  exact hheld

/-- Where a name is held throughout, a request for it that was refused before its transaction was refused by an earlier
check, because of an outage, or since the name is held. -/
theorem Objected.of_heldBy {host : Host} {trail : Trail} (hS : ∀ s, S s → HeldBy name host s) (hu : S u.store)
    (hname : HostName.parse q.command.hostName = .ok name) (h : Objected (.within S T) q u v refusal trail) :
    refusal.isPreliminary = true ∨
      (∃ fault call surroundings, refusal = .fault fault ∧ T surroundings ∧ surroundings.outage call = some fault) ∨
      refusal = if q.context.client = some host.sponsor then .alreadyExistsForThisClient name.text
        else .createContention name.text := by
  have hout {call : Call} {fault : Fault} (h : (Company.within S T).Outage call fault) :
      ∃ fault' call surroundings, Refusal.fault fault = .fault fault' ∧ T surroundings ∧
        surroundings.outage call = some fault' := by
    obtain ⟨surroundings, hmeets, hfault⟩ := h
    exact ⟨fault, call, surroundings, rfl, hmeets, hfault⟩
  cases h with
  | anonymous _ => exact .inl rfl
  | misnamed _ h => exact .inl (Refusal.isPreliminary_of_isFormal (formal_parse _ _ h))
  | zoneOutage _ _ h => exact .inr (.inl (hout h))
  | shallow _ h => exact .inl (Refusal.isPreliminary_of_isFormal (formal_checkDepth _ _ _ _ h))
  | domainOutage _ _ h => exact .inr (.inl (hout h))
  | orphan _ _ _ => exact .inl rfl
  | misaddressed _ h => exact .inl (Refusal.isPreliminary_of_isFormal (formal_resolveAddresses _ _ _ h))
  | hostOutage _ _ h => exact .inr (.inl (hout h))
  | held hsite _ h =>
      obtain rfl := Except.ok.inj (hsite.parse_eq.symm.trans hname)
      obtain ⟨s, hs, hheld⟩ := Company.exists_of_meanwhile h hu
      obtain rfl := Option.some.inj (hheld.symm.trans ((hS s hs).activeHost_eq _))
      refine .inr (.inr ?_)
      rw [hsite.client_eq]
      simp only [Option.some.injEq, eq_comm]

/-- Where a name is held throughout, a request for it passes no further than to the check on uniqueness. -/
theorem Passed.not_heldBy {host : Host} {client : ClientId} {zone : Option String} {placement : Placement}
    {addresses : List IpAddress} (hS : ∀ s, S s → HeldBy name host s) (hu : S u.store)
    (h : Passed (.within S T) q u v client name zone placement addresses) : False := by
  obtain ⟨s, hs, hfree⟩ := Company.exists_of_meanwhile h.free hu
  cases hfree.symm.trans ((hS s hs).activeHost_eq _)

/-- Where a name is held throughout, a request for it has no part in a transaction and is refused. -/
theorem refused_of_heldBy {r : Registry (Except Refusal Response)} {host : Host}
    (hstores : ∀ s ∈ r.stores (moves during), HeldBy name host s) (hq : r.requests[number]? = some q.work)
    (hname : HostName.parse q.command.hostName = .ok name) {result : Except Refusal Response}
    (hdone : (r.play (moves during)).requests[number]? = some (.done result)) {earlier : List Deed}
    (hearlier : Asides number earlier) :
    Idle number (earlier ++ r.deeds (moves during)) ∧ ∃ refusal, result = .error refusal ∧
      (refusal.isPreliminary = true ∨
        (∃ fault call turn, refusal = .fault fault ∧ Deed.turn number turn ∈ r.deeds (moves during) ∧
          turn.surroundings.outage call = some fault) ∨
        refusal = if q.context.client = some host.sponsor then .alreadyExistsForThisClient name.text
          else .createContention name.text) := by
  let met (surroundings : Surroundings) : Prop :=
    ∃ turn, Deed.turn number turn ∈ r.deeds (moves during) ∧ turn.surroundings = surroundings
  have hborne : (Company.within (HeldBy name host) met).Bears number r.world (r.deeds (moves during)) :=
    Registry.bears_within hstores fun turn hturn => ⟨turn, hturn, rfl⟩
  have hworld : HeldBy name host r.world.store := hstores _ (Registry.world_mem_stores r (moves during))
  have hchronicle := chronicle_since hq hdone hborne hearlier
  cases hchronicle with
  | objected hidle h _ =>
      refine ⟨hidle, _, rfl, ?_⟩
      rcases h.of_heldBy (fun _ hs => hs) hworld hname with hearly | hfault | htaken
      · exact .inl hearly
      · obtain ⟨fault, call, _, hfault, ⟨turn, hturn, rfl⟩, houtage⟩ := hfault
        exact .inr (.inl ⟨fault, call, turn, hfault, hturn, houtage⟩)
      · exact .inr (.inr htaken)
  | unopened hidle h =>
      obtain ⟨_, ⟨turn, hturn, rfl⟩, houtage⟩ := h
      exact ⟨hidle, _, rfl, .inr (.inl ⟨_, _, turn, rfl, hturn, houtage⟩)⟩
  | accounted _ _ _ _ _ _ hpassed _ _ =>
      obtain rfl := Except.ok.inj (hpassed.parse_eq.symm.trans hname)
      exact (hpassed.not_heldBy (fun _ hs => hs) hworld).elim

/-- In every run, once a create has committed and as long as nobody puts a row under its name, every request for the
name that is submitted later has no part in a transaction, and comes to no other result than a refusal: by a check
before the one on uniqueness, because of an outage that it has met, or since the name is taken, in the words for the
client that has created it or for any other. -/
theorem createHost_stays_taken {w : World} {before between during : List Act} {act : Act} {number : Nat}
    {turn : Turn} (hcommit : ((opened w).play (moves before)).commit? act.move = some (number, turn))
    {q q' : Request} {name : HostName} (hq : (requested before)[number]? = some q)
    (hname : HostName.parse q.command.hostName = .ok name) (hname' : HostName.parse q'.command.hostName = .ok name)
    (hput : ∀ host : Host, host.name = name → Act.edit (.putHost host) ∉ between ++ during)
    {result : Except Refusal Response} :
    let acts := before ++ act :: between ++ .submit q' :: during
    let later := (requested (before ++ act :: between)).length
    ((opened w).play (moves acts)).requests[later]? = some (.done result) →
      (∀ turn, (later, turn) ∈ (opened w).turns (moves acts) → turn.op.engages = false) ∧
        ∃ refusal, result = .error refusal ∧ (refusal.isPreliminary = true ∨
          (∃ fault call turn, refusal = .fault fault ∧ (later, turn) ∈ (opened w).turns (moves acts) ∧
            turn.surroundings.outage call = some fault) ∨
          refusal = if q'.context.client = q.context.client then .alreadyExistsForThisClient name.text
            else .createContention name.text) := by
  intro acts later hdone
  obtain ⟨host, hclient, hstores⟩ := heldBy_while_submitted hcommit hq hname hput
  let submitted : List Act := before ++ act :: between ++ [.submit q']
  let start := (opened w).play (moves submitted)
  have hacts : acts = submitted ++ during := List.append_cons ..
  obtain ⟨hstart, hnone⟩ := requests_submit_opened w (before ++ act :: between) q'
  have hearlier : Asides later ((opened w).deeds (moves submitted)) := fun turn hturn =>
    hnone turn (Registry.mem_deeds.1 hturn)
  have hdeeds : (opened w).deeds (moves acts) = (opened w).deeds (moves submitted) ++ start.deeds (moves during) := by
    rw [hacts, moves_append, Registry.deeds_append]
  rw [hacts, moves_append, Registry.play_append] at hdone
  obtain ⟨hidle, refusal, hresult, hrefusal⟩ := refused_of_heldBy hstores hstart hname' hdone hearlier
  rw [← hdeeds] at hidle
  have hturns {turn : Turn} (hturn : Deed.turn later turn ∈ start.deeds (moves during)) :
      (later, turn) ∈ (opened w).turns (moves acts) := by
    rw [← Registry.mem_deeds, hdeeds]
    exact List.mem_append_right _ hturn
  refine ⟨fun turn hturn => hidle turn (Registry.mem_deeds.2 hturn), refusal, hresult, ?_⟩
  rw [hclient]
  rcases hrefusal with hearly | ⟨fault, call, turn, hfault, hturn, houtage⟩ | htaken
  · exact .inl hearly
  · exact .inr (.inl ⟨fault, call, turn, hfault, hturns hturn, houtage⟩)
  · exact .inr (.inr htaken)

/-- The row of an earlier holder of a name, deleted at the epoch. -/
def lapsed : Host where
  key := ⟨.ofNat 9⟩
  name := contested
  addresses := []
  superordinate := none
  sponsor := ⟨"OldRegistrar"⟩
  creator := ⟨"OldRegistrar"⟩
  statuses := .default
  creationTime := .epoch
  deletionTime := some .epoch
  lastSuperordinateChange := none

/-- The name is created anew, up to the commit. -/
def reopened : List Act :=
  [.edit (.putHost lapsed), .submit (glued ⟨"TheRegistrar"⟩ [⟨.v4, "192.0.2.1"⟩])]
    ++ List.replicate 12 (.turn 0 .calm)

/-- The earlier holder asks for the name at a time before the deletion. -/
def backdated : Request :=
  let q := glued ⟨"OldRegistrar"⟩ [⟨.v4, "192.0.2.2"⟩]
  { q with context := { q.context with now := { seconds := -1 } } }

/-- At its own clock the earlier holder would find the name in its hands, but the newer row comes first. -/
theorem createHost_stays_taken_backdated :
    let acts := reopened ++ .turn 0 .calm :: [] ++ .submit backdated :: List.replicate 20 (.turn 1 .calm)
    (∃ turn, ((opened { store := delegated }).play (moves reopened)).commit? (.turn 0 .calm) = some (0, turn)) ∧
      (∀ host : Host, host.name = contested →
        Act.edit (.putHost host) ∉ ([] : List Act) ++ List.replicate 20 (.turn 1 .calm)) ∧
      lapsed.isActiveAt backdated.context.now = true ∧
      ((opened { store := delegated }).play (moves acts)).requests[1]?
        = some (.done (.error (.createContention contested.text))) ∧
      ∀ turn, (1, turn) ∈ (opened { store := delegated }).turns (moves acts) → turn.op.engages = false := by
  intro acts
  have hfirst : (((opened { store := delegated }).play (moves reopened)).commit? (.turn 0 .calm)).map Prod.fst
      = some 0 := by decide +kernel
  obtain ⟨⟨_, turn⟩, hcommit, rfl⟩ := Option.map_eq_some_iff.1 hfirst
  have hact : ((opened { store := delegated }).play (moves reopened)).commit? (Act.turn 0 .calm).move
      = some (0, turn) := hcommit
  have hput : ∀ host : Host, host.name = contested →
      Act.edit (.putHost host) ∉ ([] : List Act) ++ List.replicate 20 (.turn 1 .calm) := by
    intro host _ hmem
    cases List.eq_of_mem_replicate hmem
  have hrun : (((opened { store := delegated }).play (moves acts)).requests[1]?.bind Work.value?)
      = some (.error (.createContention contested.text)) := by decide +kernel
  have hdone := Work.bind_value?_eq_some.1 hrun
  have htaken := createHost_stays_taken hact rfl contested.parse_text contested.parse_text hput hdone
  exact ⟨⟨turn, hcommit⟩, hput, by decide, hdone, htaken.1⟩

end Create

end Bailiwick
