import Bailiwick.Proofs.Create.Reads
import Bailiwick.Proofs.Create.FlowExchanges

/-!
The trail of a create. The lifecycle and the flow that drives it are written apart from each other, and an input that
the lifecycle does not allow is only reported. Whatever a request is told, it never makes such a report, and its trail
names the states of the checks that it has passed and then how it has ended.
-/

namespace Bailiwick

namespace Create

open Deed

/-- What was told of the managed zones. -/
def ToldOf (log : List Exchange) (zone : String) (managed : Bool) : Prop := ⟨.isManaged zone, .ok managed⟩ ∈ log

/-- A request has been told where its host belongs. -/
inductive Located (q : Request) (log : List Exchange) (name : HostName) : Option String → Placement → Prop where
  | external : Located q log name none .external
  | subordinate {zone : String} {domain : Domain}
      (h : ⟨.findDomain (superordinateName name zone) q.context.now, .ok (some domain)⟩ ∈ log) :
      Located q log name (some zone) (.subordinate domain)

/-- A request whose name was read and searched for its managed zone. -/
structure Sought (q : Request) (log : List Exchange) (client : ClientId) (name : HostName) (zone : Option String) :
    Prop where
  client_eq : q.context.client = some client
  parse_eq : HostName.parse q.command.hostName = .ok name
  searched : Searched (ToldOf log) name.properSuffixes zone

/-- A request whose name is deep enough for the managed zone that was found. -/
structure Validated (q : Request) (log : List Exchange) (client : ClientId) (name : HostName) (zone : Option String) :
    Prop extends Sought q log client name zone where
  depth_eq : name.checkDepth (q.service.rules.longest name) zone = .ok ()

/-- A request that has placed its host. -/
structure Classified (q : Request) (log : List Exchange) (client : ClientId) (name : HostName) (zone : Option String)
    (placement : Placement) : Prop extends Validated q log client name zone where
  located : Located q log name zone placement

/-- A request that passed every check before its transaction: the addresses fit, and the name was free. -/
structure Vetted (q : Request) (log : List Exchange) (client : ClientId) (name : HostName) (zone : Option String)
    (placement : Placement) (addresses : List IpAddress) : Prop
    extends Classified q log client name zone placement where
  resolve_eq : placement.resolveAddresses q.command.addresses = .ok addresses
  free : ⟨.findHost name q.context.now, .ok none⟩ ∈ log

section Mono

variable {q : Request} {log log' : List Exchange} {client : ClientId} {name : HostName} {zone : Option String}
  {placement : Placement} {addresses : List IpAddress}

theorem Sought.mono (h : Sought q log client name zone) (hlog : log ⊆ log') : Sought q log' client name zone :=
  ⟨h.client_eq, h.parse_eq, h.searched.mono fun _ _ hmem => hlog hmem⟩

theorem Validated.mono (h : Validated q log client name zone) (hlog : log ⊆ log') :
    Validated q log' client name zone :=
  ⟨h.toSought.mono hlog, h.depth_eq⟩

theorem Classified.mono (h : Classified q log client name zone placement) (hlog : log ⊆ log') :
    Classified q log' client name zone placement := by
  refine ⟨h.toValidated.mono hlog, ?_⟩
  cases h.located with
  | external => exact .external
  | subordinate hmem => exact .subordinate (hlog hmem)

theorem Vetted.mono (h : Vetted q log client name zone placement addresses) (hlog : log ⊆ log') :
    Vetted q log' client name zone placement addresses :=
  ⟨h.toClassified.mono hlog, h.resolve_eq, hlog h.free⟩

end Mono

/-- The check at which a request has stopped before its transaction, for what it was told, and its trail up to there. -/
inductive Stopped (q : Request) (log : List Exchange) : Refusal → Trail → Prop where
  | anonymous (h : q.context.client = none) : Stopped q log .notLoggedIn ⟨.received, [.received]⟩
  | misnamed {client : ClientId} {refusal : Refusal} (hclient : q.context.client = some client)
      (h : HostName.parse q.command.hostName = .error refusal) : Stopped q log refusal ⟨.received, [.received]⟩
  | unsearched {client : ClientId} {name : HostName} {zone : String} {fault : Fault}
      (hclient : q.context.client = some client) (hname : HostName.parse q.command.hostName = .ok name)
      (h : ⟨.isManaged zone, .error fault⟩ ∈ log) : Stopped q log (.fault fault) ⟨.received, [.received]⟩
  | shallow {client : ClientId} {name : HostName} {zone : Option String} {refusal : Refusal}
      (hsought : Sought q log client name zone)
      (h : name.checkDepth (q.service.rules.longest name) zone = .error refusal) :
      Stopped q log refusal ⟨.received, [.received]⟩
  | unplaced {client : ClientId} {name : HostName} {zone : String} {fault : Fault}
      (hvalidated : Validated q log client name (some zone))
      (h : ⟨.findDomain (superordinateName name zone) q.context.now, .error fault⟩ ∈ log) :
      Stopped q log (.fault fault) ⟨.validated, [.received, .validated]⟩
  | orphan {client : ClientId} {name : HostName} {zone : String} (hvalidated : Validated q log client name (some zone))
      (h : ⟨.findDomain (superordinateName name zone) q.context.now, .ok none⟩ ∈ log) :
      Stopped q log (.superordinateDomainDoesNotExist (superordinateName name zone))
        ⟨.validated, [.received, .validated]⟩
  | misaddressed {client : ClientId} {name : HostName} {zone : Option String} {placement : Placement}
      {refusal : Refusal} (hclassified : Classified q log client name zone placement)
      (h : placement.resolveAddresses q.command.addresses = .error refusal) :
      Stopped q log refusal ⟨.classified placement.isSubordinate,
        [.received, .validated, .classified placement.isSubordinate]⟩
  | unanswered {client : ClientId} {name : HostName} {zone : Option String} {placement : Placement}
      {addresses : List IpAddress} {fault : Fault} (hclassified : Classified q log client name zone placement)
      (haddresses : placement.resolveAddresses q.command.addresses = .ok addresses)
      (h : ⟨.findHost name q.context.now, .error fault⟩ ∈ log) :
      Stopped q log (.fault fault) ⟨.classified placement.isSubordinate,
        [.received, .validated, .classified placement.isSubordinate]⟩
  | held {client : ClientId} {name : HostName} {zone : Option String} {placement : Placement}
      {addresses : List IpAddress} {host : Host} (hclassified : Classified q log client name zone placement)
      (haddresses : placement.resolveAddresses q.command.addresses = .ok addresses)
      (h : ⟨.findHost name q.context.now, .ok (some host)⟩ ∈ log) :
      Stopped q log
        (if host.sponsor = client then .alreadyExistsForThisClient name.text else .createContention name.text)
        ⟨.classified placement.isSubordinate, [.received, .validated, .classified placement.isSubordinate]⟩

/-- How a request has ended, for what it was told, and its trail before that is reported. -/
inductive Ended (q : Request) (log : List Exchange) : Except Refusal Response → Trail → Prop where
  | objected {refusal : Refusal} {trail : Trail} (hunopened : ∀ answer, ⟨.openTransaction, answer⟩ ∉ log)
      (h : Stopped q log refusal trail) : Ended q log (.error refusal) trail
  | failed {client : ClientId} {name : HostName} {zone : Option String} {placement : Placement}
      {addresses : List IpAddress} {refusal : Refusal} (hopened : ∃ answer, ⟨.openTransaction, answer⟩ ∈ log)
      (hvetted : Vetted q log client name zone placement addresses) :
      Ended q log (.error refusal) ⟨.transacting placement.isSubordinate, transacting placement⟩
  | rehearsed {client : ClientId} {name : HostName} {zone : Option String} {placement : Placement}
      {addresses : List IpAddress} {response : Response} (hdry : q.context.dryRun = true)
      (hvetted : Vetted q log client name zone placement addresses)
      (hhost : response.superordinate.isSome = placement.isSubordinate) :
      Ended q log (.ok response) ⟨.rolledBack, transacting placement ++ [.rolledBack]⟩
  | triggered {client : ClientId} {name : HostName} {zone : Option String} {placement : Placement}
      {addresses : List IpAddress} {response : Response} (hreal : q.context.dryRun = false)
      (hvetted : Vetted q log client name zone placement addresses)
      (hhost : response.superordinate.isSome = placement.isSubordinate) (hsubordinate : placement.isSubordinate = true)
      (hqueued : ⟨.enqueueRefresh response.hostName, .accepted⟩ ∈ log) :
      Ended q log (.ok response) ⟨.dnsTriggered, transacting placement ++ [.committed true, .dnsTriggered]⟩
  | committed {client : ClientId} {name : HostName} {zone : Option String} {placement : Placement}
      {addresses : List IpAddress} {response : Response} (hreal : q.context.dryRun = false)
      (hvetted : Vetted q log client name zone placement addresses)
      (hhost : response.superordinate.isSome = placement.isSubordinate)
      (hunqueued : ∀ other, ⟨.enqueueRefresh other, .accepted⟩ ∉ log) :
      Ended q log (.ok response) ⟨.committed placement.isSubordinate,
        transacting placement ++ [.committed placement.isSubordinate]⟩

variable {q : Request} {log : List Exchange} {trail : Trail} {client : ClientId} {name : HostName}
  {zone : Option String} {placement : Placement} {addresses : List IpAddress}

theorem unopened_of_inquires (h : Logged (·.inquires) log) (answer : Except Fault Unit) :
    (⟨.openTransaction, answer⟩ : Exchange) ∉ log :=
  fun hmem => Bool.false_ne_true (h _ hmem)

theorem unqueued_of_isPlain (h : Logged (·.isPlain) log) (other : HostName) (delivery : Delivery) :
    (⟨.enqueueRefresh other, delivery⟩ : Exchange) ∉ log :=
  fun hmem => Bool.false_ne_true (h _ hmem)

/-- The search for a managed zone finds what it was told, or meets a fault. -/
theorem tells_firstManagedZone (suffixes : List String) (hlog : Logged (·.inquires) log) :
    (firstManagedZone suffixes).Tells (fun log' result trail' => trail' = trail ∧ log ⊆ log' ∧
      Logged (·.inquires) log' ∧ (∀ zone, result = .ok zone → Searched (ToldOf log') suffixes zone) ∧
      ∀ refusal, result = .error refusal → ∃ zone fault, refusal = .fault fault ∧
        ⟨.isManaged zone, .error fault⟩ ∈ log') trail log := by
  induction suffixes generalizing log with
  | nil =>
      refine ⟨rfl, List.Subset.refl log, hlog, ?_, nofun⟩
      intro zone hzone
      obtain rfl := Except.ok.inj hzone
      exact .exhausted
  | cons suffix shorter ih =>
      refine Flow.tells_bind (Flow.tells_ask fun answer => ?_)
      let asked : Exchange := ⟨.isManaged suffix, answer⟩
      have hasked : asked ∈ log ++ [asked] := List.mem_concat_self
      have hsubset := List.subset_append_left log [asked]
      have hlog' : Logged (·.inquires) (log ++ [asked]) := hlog.snoc rfl
      cases answer with
      | error fault =>
          refine ⟨rfl, hsubset, hlog', nofun, ?_⟩
          intro refusal hrefusal
          exact ⟨suffix, fault, (Except.error.inj hrefusal).symm, hasked⟩
      | ok managed =>
          cases managed with
          | true =>
              refine ⟨rfl, hsubset, hlog', ?_, nofun⟩
              intro zone hzone
              obtain rfl := Except.ok.inj hzone
              exact .found hasked
          | false =>
              rw [Work.Tells, Except.mapError, Flow.Remains, if_neg Bool.false_ne_true]
              refine (ih hlog').mono ?_
              rintro log' result trail' ⟨htrail, hgrown, hall, hok, herror⟩
              refine ⟨htrail, List.Subset.trans hsubset hgrown, hall, ?_, herror⟩
              exact fun zone hzone => .passed (hgrown hasked) (hok zone hzone)

/-- Attempts are plain if their bodies are, and come to what a body may come to. -/
theorem keeps_attempts {α : Type} {P : α → Prop} {mode : CommitMode} {budget : Nat} {body : Nat → Body α}
    (hbody : ∀ number, ((body number).run .empty).Keeps (·.isPlain) fun reached => ∀ a, reached.1 = .ok a → P a)
    (remaining number : Nat) :
    (Transaction.attempts mode budget body remaining number).Keeps (·.isPlain)
      fun result => ∀ a, result = .ok a → P a := by
  induction remaining generalizing number with
  | zero => rintro _ ⟨⟩
  | succ remaining ih =>
      rw [Transaction.attempts]
      refine (hbody number).bind ?_
      rintro ⟨result, attempt⟩ hvalue
      cases result with
      | error refusal => rintro _ ⟨⟩
      | ok value =>
          cases mode with
          | rollBack => exact ⟨rfl, fun _ => ⟨rfl, fun _ => hvalue⟩⟩
          | commit =>
              refine ⟨rfl, fun lasts => ?_⟩
              cases lasts with
              | true => exact ⟨rfl, fun _ => hvalue⟩
              | false => exact ⟨rfl, fun _ => ih (number + 1)⟩

/-- The trail of a request that was refused on it. -/
def Trail.aborted (trail : Trail) (refusal : Refusal) : Trail :=
  ⟨.aborted refusal, trail.visited ++ [.aborted refusal]⟩

/-- A request has ended in one of its ways, and was sound up to there. -/
def EndedSoundly (q : Request) (log : List Exchange) (result : Except Refusal Response) (trail : Trail) : Prop :=
  Logged (·.isSound) log ∧ Ended q log result trail

/-- Where a check has stopped a request that has only inquired, it has ended. -/
theorem Stopped.endedSoundly {refusal : Refusal} (h : Stopped q log refusal trail) (hlog : Logged (·.inquires) log) :
    EndedSoundly q log (.error refusal) trail :=
  ⟨hlog.mono fun _ hop => Op.isSound_of_isPlain (Op.isPlain_of_inquires hop),
    .objected (unopened_of_inquires hlog) h⟩

/-- No request has ended already where it has been refused. -/
theorem Ended.advance_failed {refusal : Refusal} (h : Ended q log (.error refusal) trail) :
    trail.advance (.failed refusal) = .ok (trail.aborted refusal) := by
  cases h with
  | objected _ h => cases h <;> rfl
  | failed _ _ => rfl

namespace Request

/-- Only an accepted request to the queue moves the trail of a subordinate host. -/
theorem tells_requestRefresh (service : Service) (name : HostName) (log : List Exchange) :
    (requestRefresh service name).Tells (fun log' result trail' => result = .ok () ∧ ∃ delivery event,
      log' = log ++ [⟨.enqueueRefresh name, delivery⟩] ++ [⟨.report event, ()⟩] ∧
        (Op.report event).isPlain ∧ trail' = refreshTrail delivery) (refreshTrail .late) log := by
  rw [requestRefresh_eq]
  refine Flow.tells_perform_bind fun delivery => ?_
  cases delivery with
  | accepted =>
      rw [Flow.Tells, refreshed, Flow.run_advance_ok rfl]
      exact fun _ => ⟨rfl, .accepted, _, rfl, rfl, rfl⟩
  | rejected cause => exact fun _ => ⟨rfl, .rejected cause, _, rfl, rfl, rfl⟩
  | late => exact fun _ => ⟨rfl, .late, _, rfl, rfl, rfl⟩

/-- What follows the transaction of a dry run ends it. -/
theorem tells_conclude_of_dryRun (hdry : q.context.dryRun = true) {created : Created}
    (hvetted : Vetted q log client name zone placement addresses) (hlog : Logged (·.isPlain) log)
    (hhost : created.host.superordinate.isSome = placement.isSubordinate) :
    (q.conclude client name placement created).Tells (EndedSoundly q)
      ⟨.transacting placement.isSubordinate, transacting placement⟩ log := by
  rw [conclude, if_pos hdry]
  refine Flow.tells_advance_bind rfl (Flow.tells_perform_bind fun _ => ?_)
  rw [List.append_assoc]
  refine ⟨?_, .rehearsed hdry (hvetted.mono (List.subset_append_left log _)) hhost⟩
  exact (hlog.mono fun _ => Op.isSound_of_isPlain).append (.cons rfl (.cons rfl .nil))

/-- What follows a commit that was reported. -/
def follow (q : Request) (name : HostName) (placement : Placement) (created : Created) : Flow Response := do
  if placement.isSubordinate then requestRefresh q.service name
  Flow.perform (.recordActivity activityName)
  return .ofCreated created false

/-- What follows a commit ends the create, with the refresh of a subordinate host if the queue takes it. -/
theorem tells_follow (hreal : q.context.dryRun = false) {created : Created}
    (hvetted : Vetted q log client name zone placement addresses) (hlog : Logged (·.isPlain) log)
    (hname : created.host.name = name) (hhost : created.host.superordinate.isSome = placement.isSubordinate) :
    (q.follow name placement created).Tells (EndedSoundly q)
      ⟨.committed placement.isSubordinate, transacting placement ++ [.committed placement.isSubordinate]⟩ log := by
  cases placement with
  | external =>
      refine Flow.tells_perform_bind fun _ => ?_
      have hplain := hlog.snoc (e := ⟨.recordActivity activityName, ()⟩) rfl
      refine ⟨hplain.mono fun _ => Op.isSound_of_isPlain, ?_⟩
      exact .committed hreal (hvetted.mono (List.subset_append_left _ _)) hhost
        fun other => unqueued_of_isPlain hplain other .accepted
  | subordinate domain =>
      refine Flow.tells_bind ((tells_requestRefresh q.service name log).mono ?_)
      rintro _ _ _ ⟨rfl, delivery, event, rfl, hevent, rfl⟩
      refine Flow.tells_perform_bind fun _ => ?_
      simp only [List.append_assoc, List.cons_append, List.nil_append]
      have hsound := hlog.mono fun _ => Op.isSound_of_isPlain
      have hevent' := Op.isSound_of_isPlain hevent
      have hvetted' := hvetted.mono (List.subset_append_left log
        [⟨.enqueueRefresh name, delivery⟩, ⟨.report event, ()⟩, ⟨.recordActivity activityName, ()⟩])
      refine ⟨hsound.append (.cons rfl (.cons hevent' (.cons rfl .nil))), ?_⟩
      cases delivery with
      | accepted =>
          refine .triggered hreal hvetted' hhost rfl (List.mem_append_right log ?_)
          rw [Response.ofCreated, hname]
          exact List.mem_cons_self
      | _ =>
          refine .committed hreal hvetted' hhost fun other hmem => ?_
          rcases List.mem_append.1 hmem with hmem | hmem
          · exact unqueued_of_isPlain hlog other .accepted hmem
          · simp at hmem

/-- What follows the transaction of a create that is no dry run ends it. -/
theorem tells_conclude (hreal : q.context.dryRun = false) {created : Created}
    (hvetted : Vetted q log client name zone placement addresses) (hlog : Logged (·.isPlain) log)
    (hname : created.host.name = name) (hhost : created.host.superordinate.isSome = placement.isSubordinate) :
    (q.conclude client name placement created).Tells (EndedSoundly q)
      ⟨.transacting placement.isSubordinate, transacting placement⟩ log := by
  rw [conclude, hreal, if_neg Bool.false_ne_true]
  refine Flow.tells_advance_bind rfl (Flow.tells_perform_bind fun _ => ?_)
  rw [List.append_assoc]
  refine tells_follow hreal (hvetted.mono (List.subset_append_left log _)) ?_ hname hhost
  exact hlog.append (.cons rfl (.cons rfl .nil))

/-- The attempts of a request are plain, and come to a host of its name that has a domain where it was placed so. -/
theorem keeps_attempt (placement : Placement) (number : Nat) :
    ((q.attempt client name placement addresses number).run .empty).Keeps (·.isPlain)
      fun reached => ∀ created, reached.1 = .ok created →
        created.host.name = name ∧ created.host.superordinate.isSome = placement.isSubordinate := by
  refine (keeps_body addresses _ client _ _ _).mono ?_ ?_
  · rintro op (rfl | ⟨a, d, -, rfl⟩) <;> rfl
  · rintro reached hreached created hcreated
    obtain ⟨key, hkey, rfl⟩ := hreached created hcreated
    refine ⟨rfl, hkey.trans ?_⟩
    cases placement <;> rfl

/-- A request that was vetted ends by its transaction and what follows it. -/
theorem tells_carryOut (hvetted : Vetted q log client name zone placement addresses) (hlog : Logged (·.isPlain) log) :
    (q.carryOut client name placement addresses).Tells (EndedSoundly q)
      ⟨.transacting placement.isSubordinate, transacting placement⟩ log := by
  refine Flow.tells_bind (Flow.tells_mk ?_)
  intro opened
  let asked : Exchange := ⟨.openTransaction, opened⟩
  have hopened : asked ∈ log ++ [asked] := List.mem_concat_self
  have hvetted' := hvetted.mono (List.subset_append_left log [asked])
  have hplain : Logged (·.isPlain) (log ++ [asked]) := hlog.snoc rfl
  have hsound := hplain.mono fun _ => Op.isSound_of_isPlain
  cases opened with
  | error fault => exact ⟨hsound, .failed ⟨_, hopened⟩ hvetted'⟩
  | ok _ =>
      refine Work.Tells.mono ((keeps_attempts (keeps_attempt placement) _ _).tells (log ++ [asked])) ?_
      rintro _ result ⟨⟨more, rfl, hmore⟩, hvalue⟩
      cases result with
      | error refusal =>
          refine ⟨hsound.append (hmore.mono fun _ => Op.isSound_of_isPlain), ?_⟩
          exact .failed ⟨_, List.mem_append_left more hopened⟩ (hvetted'.mono (List.subset_append_left _ more))
      | ok created =>
          obtain ⟨hname, hhost⟩ := hvalue created rfl
          have hvetted'' := hvetted'.mono (List.subset_append_left _ more)
          cases hdry : q.context.dryRun with
          | true => exact tells_conclude_of_dryRun hdry hvetted'' (hplain.append hmore) hhost
          | false => exact tells_conclude hdry hvetted'' (hplain.append hmore) hname hhost

/-- A request that has placed its host is stopped by its addresses or by the holder of its name, or goes on to its
transaction. -/
theorem tells_settle (hclassified : Classified q log client name zone placement) (hlog : Logged (·.inquires) log) :
    (q.settle client name placement).Tells (EndedSoundly q) ⟨.validated, [.received, .validated]⟩ log := by
  refine Flow.tells_advance_bind rfl (Flow.tells_bind (Flow.tells_check ?_))
  let moved := Exchange.advanced (.classified placement.isSubordinate) (.classified placement.isSubordinate)
  replace hclassified := hclassified.mono (List.subset_append_left log [moved])
  replace hlog : Logged (·.inquires) (log ++ [moved]) := hlog.snoc rfl
  cases haddresses : placement.resolveAddresses q.command.addresses with
  | error refusal => exact (Stopped.misaddressed hclassified haddresses).endedSoundly hlog
  | ok addresses =>
      refine Flow.tells_bind (Flow.tells_ask fun answer => ?_)
      let asked : Exchange := ⟨.findHost name q.context.now, answer⟩
      have hasked : asked ∈ log ++ [moved] ++ [asked] := List.mem_concat_self
      replace hclassified := hclassified.mono (List.subset_append_left _ [asked])
      replace hlog : Logged (·.inquires) (log ++ [moved] ++ [asked]) := hlog.snoc rfl
      cases answer with
      | error fault => exact (Stopped.unanswered hclassified haddresses hasked).endedSoundly hlog
      | ok holder =>
          refine Flow.tells_bind (Flow.tells_check ?_)
          cases holder with
          | some host =>
              rw [checkUnique_advisory]
              exact (Stopped.held hclassified haddresses hasked).endedSoundly hlog
          | none =>
              refine Flow.tells_advance_bind rfl (Flow.tells_advance_bind rfl ?_)
              have hvetted := Vetted.mk hclassified haddresses hasked
              have hplain := hlog.mono fun _ => Op.isPlain_of_inquires
              refine tells_carryOut (hvetted.mono ?_) ((hplain.snoc rfl).snoc rfl)
              exact List.Subset.trans (List.subset_append_left _ _) (List.subset_append_left _ _)

/-- A request that has searched for its zone is stopped by its depth or for want of its domain, or goes on. -/
theorem tells_place (hsought : Sought q log client name zone) (hlog : Logged (·.inquires) log) :
    (q.place client name zone).Tells (EndedSoundly q) ⟨.received, [.received]⟩ log := by
  refine Flow.tells_bind (Flow.tells_check ?_)
  cases hdepth : name.checkDepth (q.service.rules.longest name) zone with
  | error refusal => exact (Stopped.shallow hsought hdepth).endedSoundly hlog
  | ok _ =>
      refine Flow.tells_advance_bind rfl ?_
      let moved := Exchange.advanced .nameValidated .validated
      have hvalidated := (Validated.mk hsought hdepth).mono (List.subset_append_left log [moved])
      replace hlog : Logged (·.inquires) (log ++ [moved]) := hlog.snoc rfl
      cases zone with
      | none => exact tells_settle ⟨hvalidated, .external⟩ hlog
      | some zone =>
          refine Flow.tells_bind (Flow.tells_bind (Flow.tells_ask fun answer => ?_))
          let asked : Exchange := ⟨.findDomain (superordinateName name zone) q.context.now, answer⟩
          have hasked : asked ∈ log ++ [moved] ++ [asked] := List.mem_concat_self
          replace hvalidated := hvalidated.mono (List.subset_append_left _ [asked])
          replace hlog : Logged (·.inquires) (log ++ [moved] ++ [asked]) := hlog.snoc rfl
          cases answer with
          | error fault => exact (Stopped.unplaced hvalidated hasked).endedSoundly hlog
          | ok found =>
              cases found with
              | none => exact (Stopped.orphan hvalidated hasked).endedSoundly hlog
              | some domain => exact tells_settle ⟨hvalidated, .subordinate hasked⟩ hlog

/-- Whatever it is told, a request ends in one of its ways. -/
theorem tells_stages (hlog : Logged (·.inquires) log) :
    q.stages.Tells (EndedSoundly q) (.start .received) log := by
  rw [stages]
  cases hclient : q.context.client with
  | none => exact (Stopped.anonymous hclient).endedSoundly hlog
  | some client =>
      refine Flow.tells_bind (Flow.tells_check ?_)
      cases hname : HostName.parse q.command.hostName with
      | error refusal => exact (Stopped.misnamed hclient hname).endedSoundly hlog
      | ok name =>
          refine Flow.tells_bind ((tells_firstManagedZone name.properSuffixes hlog).mono ?_)
          rintro log' result trail' ⟨rfl, -, hlog', hok, herror⟩
          cases result with
          | ok zone => exact tells_place ⟨hclient, hname, hok zone rfl⟩ hlog'
          | error refusal =>
              obtain ⟨zone, fault, rfl, hfault⟩ := herror refusal rfl
              exact (Stopped.unsearched hclient hname hfault).endedSoundly hlog'

/-- The reports with which a request closes. A refusal moves the trail once more. -/
def closing (q : Request) : Except Refusal Response → Trail → List Exchange
  | .ok _, trail => [⟨.report (.finished q.command.hostName trail), ()⟩]
  | .error refusal, trail =>
      [.advanced (.failed refusal) (.aborted refusal),
        ⟨.report (if refusal.isTransient then .failed q.command.hostName refusal (trail.aborted refusal)
          else .refused q.command.hostName refusal (trail.aborted refusal)), ()⟩]

/-- A record of a request that has come to a result: it is sound, and closes with the trail on which the request has
ended. -/
def Closed (q : Request) (log : List Exchange) (result : Except Refusal Response) : Prop :=
  Logged (·.isSound) log ∧ ∃ front trail, log = front ++ q.closing result trail ∧ Ended q front result trail

theorem tells_report {result : Except Refusal Response} (h : EndedSoundly q log result trail) :
    (q.report result trail).Tells q.Closed log := by
  obtain ⟨hsound, hended⟩ := h
  cases result with
  | ok response => exact fun _ => ⟨hsound.snoc rfl, log, trail, rfl, hended⟩
  | error refusal =>
      rw [report]
      refine Work.Tells.bind ?_
      rw [Flow.run_advance_ok hended.advance_failed]
      intro _ _
      rw [List.append_assoc]
      refine ⟨hsound.append (.cons rfl (.cons ?_ .nil)), log, trail, rfl, hended⟩
      cases refusal.isTransient <;> rfl

/-- Whatever it is told, a request leaves such a record. -/
theorem tells_work (q : Request) : q.work.Tells q.Closed [] := by
  rw [work_eq]
  intro _
  refine Work.Tells.bind (Work.Tells.mono (tells_stages (Logged.nil.snoc rfl)) ?_)
  exact fun log' reached => tells_report

end Request

/-- In a run the work of a request goes through the deeds of the run. -/
theorem exists_takes {w : World} {acts : List Act} {number : Nat} (hq : (requested acts)[number]? = some q) :
    ∃ p, ((opened w).play (moves acts)).requests[number]? = some p ∧
      q.work.Takes number ((opened w).deeds (moves acts)) p := by
  obtain ⟨here, rest, rfl, hp, hnone⟩ := exists_submission (r := opened w) hq
  have hnumber : (opened w).requests.length + number = number := Nat.zero_add number
  rw [hnumber] at hp hnone
  obtain ⟨p, hp', htakes⟩ := Registry.takes_play (moves rest) hp
  have hearlier : Asides number ((opened w).deeds (moves here)) := fun turn hturn =>
    hnone turn (Registry.mem_deeds.1 hturn)
  rw [moves_append, Registry.play_append, Registry.deeds_append]
  exact ⟨p, hp', (Work.Takes.of_asides hearlier).append htakes⟩

/-- In every run of creates, edits and turns in any order, and whatever the queue answers, no request ever gives the
lifecycle an input that it does not allow. Once a request has come to a result, its last report holds the trail on
which it has ended: the states of the checks that it has passed and, after them, how it went on from there. -/
theorem createHost_trails {w : World} {acts : List Act} {number : Nat} (hq : (requested acts)[number]? = some q) :
    (∀ misstep, ⟨.report (.misstepped misstep), ()⟩ ∉ exchanges number ((opened w).deeds (moves acts))) ∧
      ∀ result, ((opened w).play (moves acts)).requests[number]? = some (.done result) →
        ∃ front trail, exchanges number ((opened w).deeds (moves acts)) = front ++ q.closing result trail ∧
          Ended q front result trail := by
  obtain ⟨p, hp, htakes⟩ := exists_takes (w := w) hq
  constructor
  · intro misstep hmem
    have hsound := htakes.logged (q.tells_work.mono fun _ _ hclosed => hclosed.1)
    exact Bool.false_ne_true (hsound _ hmem)
  · intro result hdone
    obtain rfl := Option.some.inj (hp.symm.trans hdone)
    exact (htakes.tells_done q.tells_work).2

/-- A client creates a host, and the queue is at hand. -/
def prompt : List Act :=
  [.submit (glued ⟨"TheRegistrar"⟩ [⟨.v4, "192.0.2.1"⟩])] ++ List.replicate 24 (.turn 0 .calm)

theorem createHost_trails_prompt : ∃ q response front trail, (requested prompt)[0]? = some q ∧
    q.context.dryRun = false ∧
    ((opened { store := delegated }).play (moves prompt)).requests[0]? = some (.done (.ok response)) ∧
    exchanges 0 ((opened { store := delegated }).deeds (moves prompt)) = front ++ q.closing (.ok response) trail ∧
    Ended q front (.ok response) trail := by
  let q := glued ⟨"TheRegistrar"⟩ [⟨.v4, "192.0.2.1"⟩]
  have hrun : (((opened { store := delegated }).play (moves prompt)).requests[0]?.bind Work.value?).any Except.isOk
      = true := by decide +kernel
  obtain ⟨result, hresult, hok⟩ := (Option.any_eq_true _ _).1 hrun
  have hdone := Work.bind_value?_eq_some.1 hresult
  have hq : (requested prompt)[0]? = some q := rfl
  cases result with
  | error refusal => cases hok
  | ok response =>
      obtain ⟨front, trail, hclosing, hended⟩ := (createHost_trails (w := { store := delegated }) hq).2 _ hdone
      exact ⟨q, response, front, trail, hq, rfl, hdone, hclosing, hended⟩

example : ((opened { store := delegated }).play (moves prompt)).world.log.getLast?.map Event.line
    = some ("DEBUG Host create for \"ns1.example.tld\" finished: " ++
        "received → validated → classified → constraints_checked → transacting → committed → dns_triggered") := by
  decide +kernel

end Create

end Bailiwick
