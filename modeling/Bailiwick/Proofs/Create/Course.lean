import Bailiwick.Proofs.Create.Stages

/-!
The course of a create in company: every way in which a request can end, with what it has met on the way.
What a request finds before its transaction it finds at some moment since its start; what the transaction
decides it decides on the store that its commit meets.
-/

namespace Bailiwick

/-- What a call that reads the store answers between two worlds: an outage refuses the request. -/
inductive Seen (c : Company) (w now : World) (call : Call) {α : Type} (read : Store → α) :
    Except Refusal α → Prop where
  | outage {fault : Fault} (h : c.Outage call fault) : Seen c w now call read (.error (.fault fault))
  | answer {a : α} (h : c.Meanwhile w now fun s => read s = a) : Seen c w now call read (.ok a)

theorem Seen.of_reach {c : Company} {w u now : World} {call : Call} {surroundings : Surroundings} {α : Type}
    {read : Store → α} (hu : c.changes w u) (hnow : c.changes u now) (hmeets : c.meets surroundings) :
    Seen c w now call read ((World.reach surroundings call (read u.store)).mapError .fault) := by
  rw [World.reach]
  cases houtage : surroundings.outage call with
  | some fault => exact .outage ⟨surroundings, hmeets, houtage⟩
  | none => exact .answer ⟨u, hu, hnow, rfl⟩

/-- A turn that was taken after a world, in surroundings that the company may meet. -/
structure Taken (c : Company) (w : World) (turn : Turn) (op : Op) : Prop where
  since : c.changes w turn.world
  meets : c.meets turn.surroundings
  op : turn.op = op

namespace Create

/-- What a search for the first managed zone has found, given what it may have seen of each zone. -/
inductive Searched (seen : String → Bool → Prop) : List String → Option String → Prop where
  | exhausted : Searched seen [] none
  | found {zone : String} {shorter : List String} (h : seen zone true) : Searched seen (zone :: shorter) (some zone)
  | passed {zone : String} {shorter : List String} {found : Option String} (h : seen zone false)
      (hrest : Searched seen shorter found) : Searched seen (zone :: shorter) found

/-- What the search for a managed zone among suffixes has found between two worlds. -/
abbrev Scanned (c : Company) (w now : World) : List String → Option String → Prop :=
  Searched fun zone managed => c.Meanwhile w now fun s => s.isManaged zone = managed

/-- How a host was placed between two worlds, given the managed zone that was found for its name. -/
inductive Placed (c : Company) (w now : World) (name : HostName) (instant : Instant) :
    Option String → Placement → Prop where
  | external : Placed c w now name instant none .external
  | subordinate {zone : String} {domain : Domain}
      (h : c.Meanwhile w now fun s => s.activeDomain (superordinateName name zone) instant = some domain) :
      Placed c w now name instant (some zone) (.subordinate domain)

variable {c : Company} {q : Request} {w v now : World} {client : ClientId} {name : HostName}
  {zone : Option String} {placement : Placement} {addresses : List IpAddress}

theorem Searched.mono {seen seen' : String → Bool → Prop} {suffixes : List String}
    (h : Searched seen suffixes zone) (himp : ∀ z managed, seen z managed → seen' z managed) :
    Searched seen' suffixes zone := by
  induction h with
  | exhausted => exact .exhausted
  | found h => exact .found (himp _ _ h)
  | passed h _ ih => exact .passed (himp _ _ h) ih

/-- A zone that was found is among the suffixes, and was seen managed. -/
theorem Searched.mem_and_seen {seen : String → Bool → Prop} {suffixes : List String} {found : String}
    (h : Searched seen suffixes (some found)) : found ∈ suffixes ∧ seen found true := by
  generalize hzone : some found = zone at h
  induction h with
  | exhausted => cases hzone
  | found hseen =>
      obtain rfl := Option.some.inj hzone
      exact ⟨List.mem_cons_self, hseen⟩
  | passed _ _ ih =>
      obtain ⟨hmem, hseen⟩ := ih hzone
      exact ⟨List.mem_cons_of_mem _ hmem, hseen⟩

theorem Scanned.widen {u : World} {suffixes : List String} (h : Scanned c u v suffixes zone) (hu : c.changes w u)
    (hv : c.changes v now) : Scanned c w now suffixes zone :=
  Searched.mono h fun _ _ h => h.widen hu hv

theorem Placed.widen {u : World} {instant : Instant} (h : Placed c u v name instant zone placement)
    (hu : c.changes w u) (hv : c.changes v now) : Placed c w now name instant zone placement := by
  cases h with
  | external => exact .external
  | subordinate h => exact .subordinate (h.widen hu hv)

/-- A request whose name was read and searched for its managed zone. -/
structure Zoned (c : Company) (q : Request) (w now : World) (client : ClientId) (name : HostName)
    (zone : Option String) : Prop where
  client_eq : q.context.client = some client
  parse_eq : HostName.parse q.command.hostName = .ok name
  scanned : Scanned c w now name.properSuffixes zone

/-- A request whose name is deep enough and which was placed. -/
structure Sited (c : Company) (q : Request) (w now : World) (client : ClientId) (name : HostName)
    (zone : Option String) (placement : Placement) : Prop extends Zoned c q w now client name zone where
  depth_eq : name.checkDepth (q.service.rules.longest name) zone = .ok ()
  placed : Placed c w now name q.context.now zone placement

/-- A request that passed every check before its transaction. -/
structure Passed (c : Company) (q : Request) (w now : World) (client : ClientId) (name : HostName)
    (zone : Option String) (placement : Placement) (addresses : List IpAddress) : Prop
    extends Sited c q w now client name zone placement where
  resolve_eq : placement.resolveAddresses q.command.addresses = .ok addresses
  free : c.Meanwhile w now fun s => s.activeHost name.text q.context.now = none

theorem Zoned.of_changes (h : Zoned c q w v client name zone) (hv : c.changes v now) :
    Zoned c q w now client name zone :=
  ⟨h.client_eq, h.parse_eq, h.scanned.widen (c.refl w) hv⟩

theorem Sited.of_changes (h : Sited c q w v client name zone placement) (hv : c.changes v now) :
    Sited c q w now client name zone placement :=
  ⟨h.toZoned.of_changes hv, h.depth_eq, h.placed.widen (c.refl w) hv⟩

theorem Passed.of_changes (h : Passed c q w v client name zone placement addresses) (hv : c.changes v now) :
    Passed c q w now client name zone placement addresses :=
  ⟨h.toSited.of_changes hv, h.resolve_eq, h.free.of_changes hv⟩

/-- The refusals before the transaction, each with the trail on which it is made. -/
inductive Objected (c : Company) (q : Request) (w now : World) : Refusal → Trail → Prop where
  | anonymous (h : q.context.client = none) : Objected c q w now .notLoggedIn ⟨.received, [.received]⟩
  | misnamed {client : ClientId} {refusal : Refusal} (hclient : q.context.client = some client)
      (h : HostName.parse q.command.hostName = .error refusal) :
      Objected c q w now refusal ⟨.received, [.received]⟩
  | zoneOutage {client : ClientId} {name : HostName} {fault : Fault} (hclient : q.context.client = some client)
      (hname : HostName.parse q.command.hostName = .ok name) (h : c.Outage .zone fault) :
      Objected c q w now (.fault fault) ⟨.received, [.received]⟩
  | shallow {client : ClientId} {name : HostName} {zone : Option String} {refusal : Refusal}
      (hzone : Zoned c q w now client name zone)
      (h : name.checkDepth (q.service.rules.longest name) zone = .error refusal) :
      Objected c q w now refusal ⟨.received, [.received]⟩
  | domainOutage {client : ClientId} {name : HostName} {zone : Option String} {fault : Fault}
      (hzone : Zoned c q w now client name zone)
      (hdepth : name.checkDepth (q.service.rules.longest name) zone = .ok ()) (h : c.Outage .domain fault) :
      Objected c q w now (.fault fault) ⟨.validated, [.received, .validated]⟩
  | orphan {client : ClientId} {name : HostName} {zone : String} (hzone : Zoned c q w now client name (some zone))
      (hdepth : name.checkDepth (q.service.rules.longest name) (some zone) = .ok ())
      (h : c.Meanwhile w now fun s => s.activeDomain (superordinateName name zone) q.context.now = none) :
      Objected c q w now (.superordinateDomainDoesNotExist (superordinateName name zone))
        ⟨.validated, [.received, .validated]⟩
  | misaddressed {client : ClientId} {name : HostName} {zone : Option String} {placement : Placement}
      {refusal : Refusal} (hsite : Sited c q w now client name zone placement)
      (h : placement.resolveAddresses q.command.addresses = .error refusal) :
      Objected c q w now refusal ⟨.classified placement.isSubordinate,
        [.received, .validated, .classified placement.isSubordinate]⟩
  | hostOutage {client : ClientId} {name : HostName} {zone : Option String} {placement : Placement}
      {addresses : List IpAddress} {fault : Fault} (hsite : Sited c q w now client name zone placement)
      (haddresses : placement.resolveAddresses q.command.addresses = .ok addresses) (h : c.Outage .host fault) :
      Objected c q w now (.fault fault) ⟨.classified placement.isSubordinate,
        [.received, .validated, .classified placement.isSubordinate]⟩
  | held {client : ClientId} {name : HostName} {zone : Option String} {placement : Placement}
      {addresses : List IpAddress} {host : Host} (hsite : Sited c q w now client name zone placement)
      (haddresses : placement.resolveAddresses q.command.addresses = .ok addresses)
      (h : c.Meanwhile w now fun s => s.activeHost name.text q.context.now = some host) :
      Objected c q w now
        (if host.sponsor = client then .alreadyExistsForThisClient name.text else .createContention name.text)
        ⟨.classified placement.isSubordinate, [.received, .validated, .classified placement.isSubordinate]⟩

/-- The states of a request up to its transaction. -/
def transacting (placement : Placement) : List State :=
  [.received, .validated, .classified placement.isSubordinate, .constraintsChecked placement.isSubordinate,
    .transacting placement.isSubordinate]

/-- The trail of a subordinate host after the queue has answered. -/
def refreshTrail : Delivery → Trail
  | .accepted => ⟨.dnsTriggered, [.received, .validated, .classified true, .constraintsChecked true,
      .transacting true, .committed true, .dnsTriggered]⟩
  | _ => ⟨.committed true, [.received, .validated, .classified true, .constraintsChecked true, .transacting true,
      .committed true]⟩

/-- What follows the commit of a host, with the trail to which it leads. Only for a subordinate host is the
queue asked to refresh its records; whatever comes of that, the activity is recorded. -/
inductive Followed (c : Company) (name : HostName) (w : World) : Placement → List Turn → World → Trail → Prop where
  | external {record : Turn} {now : World} (hrecord : Taken c w record (.recordActivity activityName))
      (hnow : c.changes record.after now) :
      Followed c name w .external [record] now
        ⟨.committed false, transacting .external ++ [.committed false]⟩
  | subordinate {domain : Domain} {enqueue record : Turn} {now : World}
      (henqueue : Taken c w enqueue (.enqueueRefresh name))
      (hrecord : Taken c enqueue.after record (.recordActivity activityName)) (hnow : c.changes record.after now) :
      Followed c name w (.subordinate domain) [enqueue, record] now (refreshTrail enqueue.surroundings.delivery)

/-- The ways in which a request can end: the managed zone that it went on with if it came to its transaction, its
turns that were not quiet, the world at its end, its result and its trail. -/
inductive Course (c : Company) (q : Request) (w : World) :
    Option String → List Turn → World → Except Refusal Response → Trail → Prop where
  | objected {now : World} {zone : Option String} {refusal : Refusal} {trail : Trail} (hnow : c.changes w now)
      (h : Objected c q w now refusal trail) : Course c q w zone [] now (.error refusal) trail
  | failed {u now : World} {client : ClientId} {name : HostName} {zone : Option String} {placement : Placement}
      {addresses : List IpAddress} {turns : List Turn} {refusal : Refusal} (hu : c.changes w u)
      (hpassed : Passed c q w u client name zone placement addresses)
      (hends : Transaction.Ends c q.mode (max 1 q.service.maxAttempts)
        (q.attempt client name placement addresses) u turns now (.error refusal)) :
      Course c q w zone turns now (.error refusal)
        ⟨.transacting placement.isSubordinate, transacting placement⟩
  | rehearsed {u now : World} {client : ClientId} {name : HostName} {zone : Option String} {placement : Placement}
      {addresses : List IpAddress} {turns : List Turn} {created : Created} (hu : c.changes w u)
      (hpassed : Passed c q w u client name zone placement addresses) (hdry : q.context.dryRun = true)
      (hends : Transaction.Ends c .rollBack (max 1 q.service.maxAttempts)
        (q.attempt client name placement addresses) u turns now (.ok created)) :
      Course c q w zone turns now (.ok (.ofCreated created true))
        ⟨.rolledBack, transacting placement ++ [.rolledBack]⟩
  | made {u v now : World} {client : ClientId} {name : HostName} {zone : Option String} {placement : Placement}
      {addresses : List IpAddress} {turns more : List Turn} {created : Created} {trail : Trail}
      (hu : c.changes w u) (hpassed : Passed c q w u client name zone placement addresses)
      (hdry : q.context.dryRun = false)
      (hends : Transaction.Ends c .commit (max 1 q.service.maxAttempts)
        (q.attempt client name placement addresses) u turns v (.ok created))
      (hfollowed : Followed c name v placement more now trail) :
      Course c q w zone (turns ++ more) now (.ok (.ofCreated created false)) trail

theorem observes_isManaged (zone : String) (w : World) :
    (Flow.ask (Work.perform (.isManaged zone))).Observes c w (Seen c w · .zone (·.isManaged zone)) :=
  fun _ => Flow.ensures_ask (Work.ensures_step_of_isQuiet (fun _ _ => rfl) fun _ hu _ hmeets _ hnow =>
    ⟨rfl, rfl, c.trans hu hnow, .of_reach hu hnow hmeets⟩)

theorem observes_findDomain (domainName : String) (instant : Instant) (w : World) :
    (Flow.ask (Work.perform (.findDomain domainName instant))).Observes c w
      (Seen c w · .domain (·.activeDomain domainName instant)) :=
  fun _ => Flow.ensures_ask (Work.ensures_step_of_isQuiet (fun _ _ => rfl) fun _ hu _ hmeets _ hnow =>
    ⟨rfl, rfl, c.trans hu hnow, .of_reach hu hnow hmeets⟩)

theorem observes_findHost (name : HostName) (instant : Instant) (w : World) :
    (Flow.ask (Work.perform (.findHost name instant))).Observes c w
      (Seen c w · .host (·.activeHost name.text instant)) :=
  fun _ => Flow.ensures_ask (Work.ensures_step_of_isQuiet (fun _ _ => rfl) fun _ hu _ hmeets _ hnow =>
    ⟨rfl, rfl, c.trans hu hnow, .of_reach hu hnow hmeets⟩)

/-- What a search among suffixes comes to: a zone that was managed when it was looked at, or an outage. -/
def ScanResult (c : Company) (w now : World) (suffixes : List String) : Except Refusal (Option String) → Prop
  | .ok zone => Scanned c w now suffixes zone
  | .error refusal => ∃ fault, refusal = .fault fault ∧ c.Outage .zone fault

theorem observes_firstManagedZone (suffixes : List String) (w : World) :
    (firstManagedZone suffixes).Observes c w fun now result => ScanResult c w now suffixes result := by
  induction suffixes generalizing w with
  | nil => exact fun _ => Flow.ensures_pure fun _ hw => ⟨rfl, rfl, hw, .exhausted⟩
  | cons candidate shorter ih =>
      intro trail
      refine (observes_isManaged candidate w).ensures_bind ?_ ?_
      · rintro now refusal hnow ⟨h⟩
        exact ⟨rfl, rfl, hnow, _, rfl, h⟩
      · rintro u managed hu (_ | h)
        cases managed with
        | true => exact Flow.ensures_pure fun now hnow => ⟨rfl, rfl, c.trans hu hnow, .found (h.of_changes hnow)⟩
        | false =>
            refine (ih u trail).mono ?_
            rintro turns now result trail' ⟨rfl, rfl, hnow, hresult⟩
            refine ⟨rfl, rfl, c.trans hu hnow, ?_⟩
            cases result with
            | ok zone => exact .passed (h.of_changes hnow) (hresult.widen hu (c.refl now))
            | error refusal => exact hresult

/-- What the placement of a host comes to: a place, a domain that is not there, or an outage. -/
def PlaceResult (c : Company) (w now : World) (name : HostName) (zone : Option String) (instant : Instant) :
    Except Refusal Placement → Prop
  | .ok placement => Placed c w now name instant zone placement
  | .error refusal => (∃ fault, refusal = .fault fault ∧ c.Outage .domain fault) ∨
      ∃ z, zone = some z ∧ refusal = .superordinateDomainDoesNotExist (superordinateName name z) ∧
        c.Meanwhile w now fun s => s.activeDomain (superordinateName name z) instant = none

theorem observes_classify (name : HostName) (zone : Option String) (instant : Instant) (w : World) :
    (classify name zone instant).Observes c w fun now result => PlaceResult c w now name zone instant result := by
  intro trail
  cases zone with
  | none => exact Flow.ensures_pure fun now hnow => ⟨rfl, rfl, hnow, .external⟩
  | some zone =>
      refine (observes_findDomain (superordinateName name zone) instant w).ensures_bind ?_ ?_
      · rintro now refusal hnow ⟨h⟩
        exact ⟨rfl, rfl, hnow, .inl ⟨_, rfl, h⟩⟩
      · rintro u found hu (_ | h)
        cases found with
        | some domain =>
            exact Flow.ensures_pure fun now hnow => ⟨rfl, rfl, c.trans hu hnow, .subordinate (h.of_changes hnow)⟩
        | none =>
            exact Flow.ensures_throw fun now hnow =>
              ⟨rfl, rfl, c.trans hu hnow, .inr ⟨zone, rfl, rfl, h.of_changes hnow⟩⟩

theorem perform_enqueueRefresh_snd (w : World) (surroundings : Surroundings) (name : HostName) :
    (w.perform surroundings (.enqueueRefresh name)).2 = surroundings.delivery := by
  simp only [World.perform]
  split
  · next h => exact h.symm
  · rfl

/-- The queue is asked once, and its answer only moves the trail. -/
theorem ensures_requestRefresh_bind {service : Service} {g : Unit → Flow Response} {w : World}
    {Q : List Turn → World → Except Refusal Response → Trail → Prop}
    (h : ∀ enqueue, Taken c w enqueue (.enqueueRefresh name) →
      (g ()).Ensures c (refreshTrail enqueue.surroundings.delivery)
        (fun more => Q ([enqueue] ++ more)) enqueue.after) :
    (requestRefresh service name >>= g).Ensures c (refreshTrail .late) Q w := by
  apply Flow.ensures_bind
  refine Flow.ensures_perform_bind fun u hu surroundings hmeets => ?_
  have hrest := h ⟨u, surroundings, .enqueueRefresh name⟩ ⟨hu, hmeets, rfl⟩
  rw [perform_enqueueRefresh_snd]
  cases hdelivery : surroundings.delivery with
  | accepted =>
      rw [hdelivery] at hrest
      exact Flow.ensures_advance rfl fun v hv => hrest.of_changes hv
  | rejected cause =>
      rw [hdelivery] at hrest
      exact Flow.ensures_report fun v hv => hrest.of_changes hv
  | late =>
      rw [hdelivery] at hrest
      exact Flow.ensures_report fun v hv => hrest.of_changes hv

/-- After its transaction a dry run reports and ends. -/
theorem ensures_conclude_of_dryRun (hdry : q.context.dryRun = true) (created : Created) (w : World) :
    (q.conclude client name placement created).Ensures c
      ⟨.transacting placement.isSubordinate, transacting placement⟩
      (fun turns now result trail => turns = [] ∧ c.changes w now ∧ result = .ok (.ofCreated created true) ∧
        trail = ⟨.rolledBack, transacting placement ++ [.rolledBack]⟩) w := by
  rw [Request.conclude, if_pos hdry]
  refine Flow.ensures_advance_bind rfl (Flow.ensures_report_bind ?_)
  exact Flow.ensures_pure fun now hnow => ⟨rfl, hnow, rfl, rfl⟩

/-- After its commit a create always succeeds. -/
theorem ensures_conclude (hdry : q.context.dryRun = false) (created : Created) (w : World) :
    (q.conclude client name placement created).Ensures c
      ⟨.transacting placement.isSubordinate, transacting placement⟩
      (fun turns now result trail => result = .ok (.ofCreated created false) ∧
        Followed c name w placement turns now trail) w := by
  have hnot : ¬ q.context.dryRun = true := by rw [hdry]; exact Bool.false_ne_true
  rw [Request.conclude, if_neg hnot]
  refine Flow.ensures_advance_bind rfl (Flow.ensures_report_bind ?_)
  cases placement with
  | external =>
      refine Flow.ensures_perform_bind fun u hu surroundings hmeets => ?_
      have hrecord : Taken c w ⟨u, surroundings, .recordActivity activityName⟩ (.recordActivity activityName) :=
        ⟨hu, hmeets, rfl⟩
      exact Flow.ensures_pure fun now hnow => ⟨rfl, .external hrecord hnow⟩
  | subordinate domain =>
      apply ensures_requestRefresh_bind
      intro enqueue henqueue
      refine Flow.ensures_perform_bind fun u hu surroundings hmeets => ?_
      have hrecord : Taken c enqueue.after ⟨u, surroundings, .recordActivity activityName⟩
          (.recordActivity activityName) := ⟨hu, hmeets, rfl⟩
      exact Flow.ensures_pure fun now hnow => ⟨rfl, .subordinate henqueue hrecord hnow⟩

theorem ensures_carryOut (hc : c.Grows) {u : World} (hu : c.changes w u)
    (hpassed : Passed c q w u client name zone placement addresses) :
    (q.carryOut client name placement addresses).Ensures c
      ⟨.transacting placement.isSubordinate, transacting placement⟩ (Course c q w zone) u := by
  apply Flow.ensures_bind
  apply Flow.ensures_mk
  have hbody (number : Nat) : (q.attempt client name placement addresses number).OverlooksHosts :=
    body_overlooksHosts name addresses client q.context.now q.context.correlation (q.ids number) _
  have htransact := Transaction.ensures_transact hc q.mode q.service.maxAttempts hbody u
  apply htransact.mono
  intro turns v result hends
  cases result with
  | error refusal => exact .failed hu hpassed hends
  | ok created =>
      cases hdry : q.context.dryRun with
      | true =>
          refine (ensures_conclude_of_dryRun hdry created v).mono ?_
          rintro more now result trail ⟨rfl, hnow, rfl, rfl⟩
          rw [Request.mode, if_pos hdry] at hends
          rw [List.append_nil]
          exact .rehearsed hu hpassed hdry (hends.of_changes hnow)
      | false =>
          refine (ensures_conclude hdry created v).mono ?_
          rintro more now result trail ⟨rfl, hfollowed⟩
          have hmode : q.mode = .commit := by
            rw [Request.mode, hdry]
            rfl
          rw [hmode] at hends
          exact .made hu hpassed hdry hends hfollowed

theorem checkUnique_advisory (host : Host) (name : HostName) (client : ClientId) :
    checkUnique (some host) name client .advisory = .error
      (if host.sponsor = client then .alreadyExistsForThisClient name.text else .createContention name.text) := by
  rw [checkUnique]
  by_cases h : host.sponsor = client
  · rw [if_pos ⟨rfl, h⟩, if_pos h]
    rfl
  · rw [if_neg fun both => h both.2, if_neg h]
    rfl

theorem ensures_settle (hc : c.Grows) {u : World} (hu : c.changes w u)
    (hsite : Sited c q w u client name zone placement) :
    (q.settle client name placement).Ensures c ⟨.validated, [.received, .validated]⟩ (Course c q w zone) u := by
  refine Flow.ensures_advance_bind rfl ?_
  refine (Flow.observes_check _).ensures_bind ?_ fun v addresses hv haddresses => ?_
  · exact fun now refusal hnow h => .objected (c.trans hu hnow) (.misaddressed (hsite.of_changes hnow) h.symm)
  refine (observes_findHost name q.context.now v).ensures_bind ?_ fun x holder hx hseen => ?_
  · rintro now refusal hnow ⟨h⟩
    have hsite' := hsite.of_changes (c.trans hv hnow)
    exact .objected (c.trans hu (c.trans hv hnow)) (.hostOutage hsite' haddresses.symm h)
  cases hseen with
  | answer h =>
      have hx' := c.trans hu (c.trans hv hx)
      have hmet := h.widen (c.trans hu hv) (c.refl x)
      have hsite' := hsite.of_changes (c.trans hv hx)
      cases holder with
      | none =>
          apply (Flow.observes_check _).ensures_bind (fun _ _ _ hcheck => nomatch hcheck)
          intro y _ hy _
          refine Flow.ensures_advance_bind rfl (Flow.ensures_advance_bind rfl ?_)
          have hpassed : Passed c q w y client name zone placement addresses :=
            ⟨hsite'.of_changes hy, haddresses.symm, hmet.of_changes hy⟩
          exact ensures_carryOut hc (c.trans hx' hy) hpassed
      | some host =>
          rw [checkUnique_advisory]
          refine (Flow.observes_check _).ensures_bind ?_ fun _ _ _ hcheck => nomatch hcheck
          intro now refusal hnow hcheck
          obtain rfl := Except.error.inj hcheck
          have hheld := Objected.held (hsite'.of_changes hnow) haddresses.symm (hmet.of_changes hnow)
          exact .objected (c.trans hx' hnow) hheld

theorem ensures_place (hc : c.Grows) {u : World} (hu : c.changes w u) (hzone : Zoned c q w u client name zone) :
    (q.place client name zone).Ensures c ⟨.received, [.received]⟩ (Course c q w zone) u := by
  refine (Flow.observes_check _).ensures_bind ?_ fun v _ hv hdepth => ?_
  · exact fun now refusal hnow h => .objected (c.trans hu hnow) (.shallow (hzone.of_changes hnow) h.symm)
  refine Flow.ensures_advance_bind rfl ?_
  refine (observes_classify name zone q.context.now v).ensures_bind ?_ fun x placement hx hplaced => ?_
  · rintro now refusal hnow hresult
    have hzone' := hzone.of_changes (c.trans hv hnow)
    have hnow' := c.trans hu (c.trans hv hnow)
    rcases hresult with ⟨fault, rfl, h⟩ | ⟨z, rfl, rfl, h⟩
    · exact .objected hnow' (.domainOutage hzone' hdepth.symm h)
    · exact .objected hnow' (.orphan hzone' hdepth.symm (h.widen (c.trans hu hv) (c.refl now)))
  · have hzone' := hzone.of_changes (c.trans hv hx)
    exact ensures_settle hc (c.trans hu (c.trans hv hx))
      ⟨hzone', hdepth.symm, Placed.widen hplaced (c.trans hu hv) (c.refl x)⟩

/-- In company the stages of a request take one of these courses. -/
theorem ensures_stages (hc : c.Grows) {u : World} (hu : c.changes w u) :
    q.stages.Ensures c (.start .received)
      (fun turns now result trail => ∃ zone, Course c q w zone turns now result trail) u := by
  rw [Request.stages]
  cases hclient : q.context.client with
  | none => exact Flow.ensures_throw fun now hnow => ⟨none, .objected (c.trans hu hnow) (.anonymous hclient)⟩
  | some client =>
      refine (Flow.observes_check _).ensures_bind ?_ fun v name hv hname => ?_
      · exact fun now refusal hnow h => ⟨none, .objected (c.trans hu hnow) (.misnamed hclient h.symm)⟩
      refine (observes_firstManagedZone name.properSuffixes v).ensures_bind ?_ fun x zone hx hscanned => ?_
      · rintro now refusal hnow ⟨fault, rfl, h⟩
        exact ⟨none, .objected (c.trans hu (c.trans hv hnow)) (.zoneOutage hclient hname.symm h)⟩
      · have hv' := c.trans hu hv
        have hzone : Zoned c q w x client name zone :=
          ⟨hclient, hname.symm, Scanned.widen hscanned hv' (c.refl x)⟩
        exact (ensures_place hc (c.trans hv' hx) hzone).mono fun _ _ _ _ hcourse => ⟨zone, hcourse⟩

/-- A request that has reported how it ended has changed nothing by that. -/
theorem ensures_report (q : Request) (result : Except Refusal Response) (trail : Trail) (w : World) :
    (q.report result trail).Ensures c (fun turns now reached =>
      turns = [] ∧ reached = result ∧ c.changes w now) w := by
  cases result with
  | ok response =>
      exact Work.ensures_step_of_isQuiet (fun _ _ => rfl) fun u hu _ _ now hnow => ⟨rfl, rfl, c.trans hu hnow⟩
  | error refusal =>
      apply Work.ensures_bind
      refine (Flow.ensures_run_advance (.failed refusal) trail w).mono ?_
      rintro turns u reached ⟨rfl, hu⟩
      exact Work.ensures_step_of_isQuiet (fun _ _ => rfl) fun v hv _ _ now hnow =>
        ⟨rfl, rfl, c.trans hu (c.trans hv hnow)⟩

/-- What the last stages of a request ensure holds when they have ended; then the request reports. -/
theorem ensures_finish {f : Flow Response} {Q : List Turn → World → Except Refusal Response → Trail → Prop}
    {u : World} (h : f.Ensures c (.start .received) Q u) :
    (q.finish f).Ensures c (fun turns now result => ∃ v trail, Q turns v result trail ∧ c.changes v now) u := by
  apply Work.ensures_bind
  refine Work.Ensures.mono h ?_
  rintro turns v ⟨result, trail⟩ hQ
  refine (ensures_report q result trail v).mono ?_
  rintro more now reached ⟨rfl, rfl, hnow⟩
  rw [List.append_nil]
  exact ⟨v, trail, hQ, hnow⟩

/-- In company a request takes one of these courses; then it reports how it ended. -/
theorem ensures_work (hc : c.Grows) (q : Request) (w : World) :
    q.work.Ensures c (fun turns now result => ∃ v trail,
      (∃ zone, Course c q w zone turns v result trail) ∧ c.changes v now) w := by
  rw [Request.work_eq]
  apply Work.ensures_step_of_isQuiet (fun _ _ => rfl)
  intro u hu _ _
  exact ensures_finish (ensures_stages hc hu)

end Create

end Bailiwick
