import Bailiwick.Proofs.Create.Contest
import Bailiwick.Proofs.Create.Placing
import Bailiwick.Proofs.Create.Span

/-!
The grounds of a refusal. What a refusal says of a host name or of a domain was so in some store between the start of
the request and its end, whatever others did meanwhile; and where all attempts were in vain, others have written to
the rows of the name or of its domain as often.
-/

namespace Bailiwick.Create

open Deed Transaction

/-- The name of a domain above a host: a proper suffix with one label more than a zone that was managed in one of some
stores. -/
def IsSuperordinate (stores : List Store) (name : HostName) (d : String) : Prop :=
  d ∈ name.properSuffixes ∧ ∃ zone ∈ name.properSuffixes,
    HostName.countLabels d = HostName.countLabels zone + 1 ∧ ∃ s ∈ stores, s.isManaged zone = true

/-- What others have written to rows of a name, or of the name of the one domain that it was placed under. -/
def IsRival (number : Nat) (name : HostName) (domainName : Option String) (deed : Deed) : Prop :=
  deed.own? number = none ∧ ∃ key ∈ deed.bumps, Reads name domainName key

/-- A refusal is borne out by the stores and the deeds between the start and the end of the request with a number: what
it says of rows was so in one of the stores, and a budget was used up by as many rivals for the name and for one domain
above it, unless a store that was out of reach has said so itself. -/
def BorneOut (q : Request) (number : Nat) (stores : List Store) (deeds : List Deed) : Refusal → Prop
  | .alreadyExistsForThisClient n =>
    (HostName.parse q.command.hostName).map HostName.text = .ok n ∧ ∃ s ∈ stores, ∃ host,
      ((s.hostsNamed n).filter (·.isActiveAt q.context.now)).getLast? = some host ∧
        q.context.client = some host.sponsor
  | .createContention n =>
    (HostName.parse q.command.hostName).map HostName.text = .ok n ∧ ∃ s ∈ stores, ∃ host ∈ s.hostsNamed n,
      host.isActiveAt q.context.now = true
  | .superordinateDomainDoesNotExist d =>
    (∃ name, HostName.parse q.command.hostName = .ok name ∧ IsSuperordinate stores name d) ∧ ∃ s ∈ stores,
      ∀ domain, s.domains.get? d = some domain → domain.isActiveAt q.context.now = false
  | .superordinateDomainInPendingDelete d =>
    ∃ s ∈ stores, ∃ domain, s.domains.get? d = some domain ∧ domain.isActiveAt q.context.now = true ∧
      StatusValue.pendingDelete ∈ domain.statuses
  | .fault (.retriesExhausted m) =>
    (∀ turn, Deed.turn number turn ∈ deeds → ∀ call, turn.surroundings.outage call ≠ some (.retriesExhausted m)) →
      ∃ name domainName, HostName.parse q.command.hostName = .ok name ∧
        (∀ d, domainName = some d → IsSuperordinate stores name d) ∧ ∃ rivals : List Deed, rivals.Sublist deeds ∧
          m ≤ rivals.length ∧ ∀ deed ∈ rivals, IsRival number name domainName deed
  | _ => True

variable {w : World} {acts : List Act} {number : Nat} {q : Request} {result : Except Refusal Response}
  {client : ClientId} {name : HostName} {zone : Option String} {placement : Placement} {addresses : List IpAddress}
  {stores : List Store} {deeds : List Deed} {refusal : Refusal} {u v : World} {T : Surroundings → Prop}

theorem borneOut_of_isFormal (h : refusal.isFormal = true) : BorneOut q number stores deeds refusal := by
  cases refusal with
  | superordinateDomainDoesNotExist _ => cases h
  | superordinateDomainInPendingDelete _ => cases h
  | alreadyExistsForThisClient _ => cases h
  | createContention _ => cases h
  | fault _ => cases h
  | _ => trivial

/-- The domain of a zone that a search has found is above the host, if the name is deep enough. -/
theorem Zoned.isSuperordinate {zone : String} (h : Zoned (.within (· ∈ stores) T) q u v client name (some zone))
    (hdepth : name.checkDepth (q.service.rules.longest name) (some zone) = .ok ()) (hu : u.store ∈ stores) :
    IsSuperordinate stores name (superordinateName name zone) := by
  have hdeep := HostName.lt_labelCount_of_checkDepth hdepth
  obtain ⟨hzone, hmet⟩ := h.scanned.mem_and_seen
  refine ⟨?_, zone, hzone, ?_, Company.exists_of_meanwhile hmet hu⟩
  · exact HostName.suffix_mem_properSuffixes (Nat.succ_pos _) hdeep
  · exact HostName.countLabels_suffix (Nat.succ_pos _) (Nat.le_of_lt hdeep)

theorem Sited.isSuperordinate (h : Sited (.within (· ∈ stores) T) q u v client name zone placement)
    (hu : u.store ∈ stores) (horderly : u.store.Orderly) {d : String}
    (hd : placement.superordinate?.map Domain.name = some d) : IsSuperordinate stores name d := by
  rw [h.superordinate?_eq Company.within_grows horderly] at hd
  obtain ⟨z, rfl, rfl⟩ := Option.map_eq_some_iff.1 hd
  exact h.toZoned.isSuperordinate h.depth_eq hu

/-- A domain that may not gain a host is not there, or in pending delete. -/
theorem superordinateOn_eq_error {s : Store} {domainName : Option String} {now : Instant}
    (h : superordinateOn s domainName now = .error refusal) :
    ∃ d, domainName = some d ∧ ((refusal = .superordinateDomainDoesNotExist d ∧ s.activeDomain d now = none) ∨
      (refusal = .superordinateDomainInPendingDelete d ∧
        ∃ domain, s.activeDomain d now = some domain ∧ domain.isPendingDelete = true)) := by
  cases domainName with
  | none => cases h
  | some d =>
      refine ⟨d, rfl, ?_⟩
      rw [superordinateOn] at h
      cases hfound : s.activeDomain d now with
      | none =>
          rw [hfound] at h
          exact .inl ⟨(Except.error.inj h).symm, rfl⟩
      | some domain =>
          rw [hfound, checkSuperordinate] at h
          cases hpending : domain.isPendingDelete with
          | false =>
              simp only [hpending] at h
              cases h
          | true =>
              simp only [hpending] at h
              exact .inr ⟨(Except.error.inj h).symm, domain, rfl, hpending⟩

/-- Where no domain is active no row of its name is. -/
theorem isActiveAt_of_activeDomain_eq_none {s : Store} {d : String} {now : Instant} (h : s.activeDomain d now = none)
    (domain : Domain) (hget : s.domains.get? d = some domain) : domain.isActiveAt now = false := by
  rw [Store.activeDomain, hget, Option.filter_some] at h
  split at h
  · cases h
  · next hidle => exact Bool.eq_false_iff.2 hidle

/-- An attempt conflicts only where a rival has written while it ran. -/
theorem exists_rival {trial : Trial number (q.attempt client name placement addresses)} (h : trial.Conflicts) :
    ∃ deed ∈ trial.deeds, IsRival number name (placement.superordinate?.map Domain.name) deed := by
  obtain ⟨asides, first, since, read, hrunning, hasides, -⟩ := exists_first trial
  obtain ⟨deed, hdeed, key, hkey, hreads⟩ := exists_bump_of_conflicts h hrunning hasides
  have hmem : deed ∈ trial.running := by
    rw [hrunning]
    exact List.mem_append_right asides (List.mem_cons_of_mem _ hdeed)
  refine ⟨deed, List.mem_append_left _ (List.mem_append_left _ hmem), ?_, key, hkey, hreads⟩
  -- The turns of an attempt raise no version before its commit.
  cases hown : deed.own? number with
  | none => rfl
  | some turn =>
      obtain rfl := own?_eq_some.1 hown
      rw [bumps, Turn.writes_of_not_commits (trial.commits_eq_false_of_mem_running hmem)] at hkey
      cases hkey

/-- Attempts that all conflict have each met a rival. -/
theorem exists_rivals {trials : List (Trial number (q.attempt client name placement addresses))}
    (h : ∀ trial ∈ trials, trial.Conflicts) :
    ∃ rivals : List Deed, rivals.Sublist (trials.flatMap Trial.deeds) ∧ rivals.length = trials.length ∧
      ∀ deed ∈ rivals, IsRival number name (placement.superordinate?.map Domain.name) deed := by
  induction trials with
  | nil => exact ⟨[], .slnil, rfl, fun _ hdeed => absurd hdeed List.not_mem_nil⟩
  | cons trial trials ih =>
      obtain ⟨htrial, hrest⟩ := List.forall_mem_cons.1 h
      obtain ⟨deed, hdeed, hrival⟩ := exists_rival htrial
      obtain ⟨rivals, hsublist, hlength, hrivals⟩ := ih hrest
      refine ⟨deed :: rivals, ?_, congrArg Nat.succ hlength, List.forall_mem_cons.2 ⟨hrival, hrivals⟩⟩
      rw [List.flatMap_cons]
      exact (List.singleton_sublist.2 hdeed).append hsublist

namespace Span

variable (span : Span w acts number q (.error refusal))

/-- The company of a request: in its span the store is always one of the stores of the span. -/
abbrev company : Company := .within (· ∈ span.stores) span.Meets

theorem borneOut_of_outage {call : Call} {fault : Fault} (h : span.company.Outage call fault) :
    BorneOut q number span.stores span.deeds (.fault fault) := by
  cases fault with
  | retriesExhausted m =>
      intro hnever
      obtain ⟨surroundings, ⟨turn, hturn, rfl⟩, hfault⟩ := h
      exact absurd hfault (hnever turn hturn call)
  | _ => trivial

/-- A request that was refused before its transaction was refused for what it had met. -/
theorem borneOut_of_objected {trail : Trail} (h : Objected span.company q span.start.world v refusal trail) :
    BorneOut q number span.stores span.deeds refusal := by
  have hstart := span.start_mem_stores
  cases h with
  | anonymous _ => trivial
  | misnamed _ h => exact borneOut_of_isFormal (formal_parse _ _ h)
  | zoneOutage _ _ h => exact span.borneOut_of_outage h
  | shallow _ h => exact borneOut_of_isFormal (formal_checkDepth _ _ _ _ h)
  | domainOutage _ _ h => exact span.borneOut_of_outage h
  | orphan hzone hdepth h =>
      obtain ⟨s, hs, hnone⟩ := Company.exists_of_meanwhile h hstart
      refine ⟨⟨_, hzone.parse_eq, hzone.isSuperordinate hdepth hstart⟩, s, hs, ?_⟩
      exact isActiveAt_of_activeDomain_eq_none hnone
  | misaddressed _ h => exact borneOut_of_isFormal (formal_resolveAddresses _ _ _ h)
  | hostOutage _ _ h => exact span.borneOut_of_outage h
  | held hsite _ h =>
      obtain ⟨s, hs, hheld⟩ := Company.exists_of_meanwhile h hstart
      have hname : (HostName.parse q.command.hostName).map HostName.text = .ok _ := congrArg _ hsite.parse_eq
      split
      · next hsponsor =>
          rw [Store.activeHost_eq_getLast?] at hheld
          refine ⟨hname, s, hs, _, hheld, ?_⟩
          rw [hsponsor]
          exact hsite.client_eq
      · exact ⟨hname, s, hs, _, Store.mem_of_activeHost hheld⟩

/-- Every turn of the request in its span meets a store of the span. -/
theorem store_mem_of_mem_deeds {turn : Turn} (h : Deed.turn number turn ∈ span.deeds) :
    turn.world.store ∈ span.stores :=
  Registry.mem_stores_of_mem_turns (Registry.mem_deeds.1 h)

/-- What an attempt refuses it refuses for what it has read. -/
theorem borneOut_of_decided (hsite : Sited span.company q span.start.world v client name zone placement)
    (horderly : span.start.world.store.Orderly) {ordinal : Nat} {first read : Turn}
    (hfirst : Deed.turn number first ∈ span.deeds) (hread : Deed.turn number read ∈ span.deeds)
    (h : Decided q client name placement addresses ordinal first read (.error refusal)) :
    BorneOut q number span.stores span.deeds refusal := by
  generalize hreached : Except.error refusal = reached at h
  cases h with
  | held hheld =>
      obtain rfl := Except.error.inj hreached
      have hname : (HostName.parse q.command.hostName).map HostName.text = .ok _ := congrArg _ hsite.parse_eq
      exact ⟨hname, _, span.store_mem_of_mem_deeds hfirst, _, Store.mem_of_activeHost hheld⟩
  | free _ =>
      cases hkey : superordinateOn read.world.store (placement.superordinate?.map Domain.name) q.context.now with
      | ok key =>
          rw [hkey] at hreached
          cases hreached
      | error other =>
          rw [hkey] at hreached
          obtain rfl := Except.error.inj hreached
          have hstore := span.store_mem_of_mem_deeds hread
          obtain ⟨d, hd, ⟨rfl, hnone⟩ | ⟨rfl, domain, hfound, hpending⟩⟩ := superordinateOn_eq_error hkey
          · have habove := hsite.isSuperordinate span.start_mem_stores horderly hd
            exact ⟨⟨name, hsite.parse_eq, habove⟩, _, hstore, isActiveAt_of_activeDomain_eq_none hnone⟩
          · obtain ⟨hget, hactive⟩ := Option.filter_eq_some_iff.1 hfound
            exact ⟨_, hstore, domain, hget, hactive, of_decide_eq_true hpending⟩

/-- What a refusal says is borne out by what the run went through in the span of the request. -/
theorem borneOut_of_chronicle (horderly : span.start.world.store.Orderly) {result : Except Refusal Response}
    (h : Chronicle span.company number q span.start.world v span.deeds result) (hresult : result = .error refusal) :
    BorneOut q number span.stores span.deeds refusal := by
  cases h with
  | objected _ h _ =>
      obtain rfl := Except.error.inj hresult
      exact span.borneOut_of_objected h
  | unopened _ h =>
      obtain rfl := Except.error.inj hresult
      exact span.borneOut_of_outage h
  | @accounted _ _ _ _ _ _ reached _ opening trials rest hdeeds _ _ hpassed _ haccount =>
      have hreached : reached = .error refusal := by
        cases reached with
        | ok created => cases hresult
        | error other => rw [Except.error.inj hresult]
      rcases haccount.outcome with ⟨earlier, last, rfl, -, -, hlast, -⟩ | ⟨hlength, hall, hexhausted, -⟩
      · -- The attempts before the last leave no refusal; the last refuses for what it has read itself.
        obtain ⟨asides, first, since, read, hrunning, -, -, hread, hdecided⟩ := exists_first last
        have hmem {turn : Turn} : Deed.turn number turn ∈ last.running → Deed.turn number turn ∈ span.deeds :=
          mem_deeds_of_mem_running hdeeds (List.mem_append_right earlier (List.mem_singleton_self last))
        have hfirst : Deed.turn number first ∈ last.running := by
          rw [hrunning]
          exact List.mem_append_right asides List.mem_cons_self
        rw [← hlast, hreached] at hdecided
        exact span.borneOut_of_decided hpassed.toSited horderly (hmem hfirst) (hmem hread) hdecided
      · obtain rfl := Except.error.inj (hreached.symm.trans hexhausted)
        intro _
        obtain ⟨rivals, hsublist, hcount, hrivals⟩ := exists_rivals hall
        refine ⟨_, _, hpassed.parse_eq, fun _ => hpassed.isSuperordinate span.start_mem_stores horderly, rivals, ?_,
          Nat.le_of_eq (hlength.symm.trans hcount.symm), hrivals⟩
        rw [hdeeds]
        exact hsublist.trans ((List.sublist_append_right opening _).trans (List.sublist_append_left _ rest))

end Span

/-- In every run of creates, edits and turns in any order a request that was refused has its span, and what the
refusal says of the registry is borne out by the stores and the deeds of that span. -/
theorem createHost_refused_for_cause {w : World} (hbuilt : w.store.Built) {acts : List Act} {number : Nat}
    {q : Request} {refusal : Refusal} (hq : (requested acts)[number]? = some q)
    (hdone : ((opened w).play (moves acts)).requests[number]? = some (.done (.error refusal))) :
    Nonempty (Span w acts number q (.error refusal)) ∧ ∀ span : Span w acts number q (.error refusal),
      BorneOut q number span.stores span.deeds refusal := by
  refine ⟨exists_span hq hdone, fun span => ?_⟩
  have hlater : w.store.Later span.start.world.store :=
    Registry.changes_play (r := opened w) (admits_moves (anyone_admits _))
  exact span.borneOut_of_chronicle (hlater.orderly hbuilt.orderly) (span.chronicle _ fun _ hs => hs) rfl

/-- A client asks for a host and makes one attempt. -/
def impatient : Request :=
  let q := glued ⟨"TheRegistrar"⟩ [⟨.v4, "192.0.2.2"⟩]
  { q with service := { q.service with maxAttempts := 1 } }

/-- The domain of the host is put once more between the attempt and its commit. -/
def outpaced : List Act :=
  [.submit impatient] ++ List.replicate 12 (.turn 0 .calm)
    ++ [.edit (.putDomain (.new ⟨.ofNat 7⟩ "example.tld" ⟨"TheRegistrar"⟩ .epoch))]
    ++ List.replicate 4 (.turn 0 .calm)

theorem createHost_refused_for_cause_outpaced :
    delegated.Built ∧ (requested outpaced)[0]? = some impatient ∧
      ((opened { store := delegated }).play (moves outpaced)).requests[0]?
        = some (.done (.error (.fault (.retriesExhausted 1)))) ∧
      ∃ span : Span { store := delegated } outpaced 0 impatient (.error (.fault (.retriesExhausted 1))),
        BorneOut impatient 0 span.stores span.deeds (.fault (.retriesExhausted 1)) := by
  have hrun : (((opened { store := delegated }).play (moves outpaced)).requests[0]?.bind Work.value?)
      = some (.error (.fault (.retriesExhausted 1))) := by decide +kernel
  have hdone := Work.bind_value?_eq_some.1 hrun
  obtain ⟨⟨span⟩, hborne⟩ := createHost_refused_for_cause (w := { store := delegated }) built_delegated rfl hdone
  exact ⟨built_delegated, rfl, hdone, span, hborne span⟩

end Bailiwick.Create
