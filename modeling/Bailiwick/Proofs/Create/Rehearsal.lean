import Bailiwick.Proofs.Create.Formal
import Bailiwick.Proofs.Create.QueueIndependence
import Bailiwick.Proofs.Transaction.Alone

/-!
Dry runs foretell creates. A dry run and the create in earnest look at the same things in the same order up to their
transaction, which comes to the same value whether or not it is rolled back; what follows it refuses neither.
-/

namespace Bailiwick.Create

namespace Flow

variable {α β : Type} {P : Op → Prop} {Q : Except Refusal α → Prop} {R : Except Refusal β → Prop}

/-- Whatever the answers, every operation of a flow has one property and its result has another. -/
def Keeps (P : Op → Prop) (Q : Except Refusal α → Prop) (f : Flow α) : Prop :=
  ∀ trail, (f.run.run trail).Keeps P fun reached => Q reached.1

/-- A flow that only looks. -/
abbrev Looks (f : Flow α) : Prop := f.Keeps (fun op => op.looks = true) fun _ => True

theorem keeps_pure {a : α} (h : Q (.ok a)) : Keeps P Q (pure a) := fun _ => h

theorem keeps_check {result : Except Refusal α} (h : Q result) : (check result).Keeps P Q := fun _ => h

theorem keeps_throw {refusal : Refusal} (h : Q (.error refusal)) : (throw refusal : Flow α).Keeps P Q := fun _ => h

theorem Keeps.bind {f : Flow α} {g : α → Flow β} (hf : f.Keeps P Q) (hg : ∀ a, Q (.ok a) → (g a).Keeps P R)
    (herror : ∀ refusal, Q (.error refusal) → R (.error refusal)) : (f >>= g).Keeps P R := by
  intro trail
  refine Work.Keeps.bind (hf trail) ?_
  rintro ⟨result, trail'⟩ hresult
  cases result with
  | ok a => exact hg a hresult trail'
  | error refusal => exact herror refusal hresult

theorem Looks.bind {f : Flow α} {g : α → Flow β} (hf : f.Looks) (hg : ∀ a, (g a).Looks) : (f >>= g).Looks :=
  Keeps.bind hf (fun a _ => hg a) fun _ _ => trivial

/-- An operation of which the answer is the result. -/
theorem keeps_perform {op : Op} (h : P op) : (perform op).Keeps P fun result => ∃ answer, result = .ok answer :=
  fun _ => ⟨h, fun answer => ⟨answer, rfl⟩⟩

theorem looks_ask {call : Work (Except Fault α)} (h : call.Keeps (fun op => op.looks = true) fun _ => True) :
    (ask call).Looks := by
  intro trail
  have hpair : (call >>= fun a => pure (a, trail)).Keeps (fun op => op.looks = true) fun _ => True :=
    h.bind fun _ _ => trivial
  exact hpair.bind fun _ _ => trivial

/-- Whether or not a trail allows a move, it is reported and refuses nothing. -/
theorem keeps_advance (input : Input) (h : ∀ event, P (.report event)) :
    (advance input).Keeps P (· = .ok ()) := by
  intro trail
  obtain ⟨event, next, hrun⟩ := exists_report_of_advance input trail
  rw [hrun]
  exact ⟨h event, fun _ => rfl⟩

theorem keeps_report (event : Event) (h : P (.report event)) : (perform (.report event)).Keeps P (· = .ok ()) :=
  fun _ => ⟨h, fun _ => rfl⟩

theorem looks_advance (input : Input) : (advance input).Looks :=
  fun trail => (keeps_advance input (fun _ => rfl) trail).mono (fun _ => id) fun _ _ => trivial

/-- A step that cannot refuse is followed by the next. -/
theorem keeps_seq {f : Flow Unit} {g : Unit → Flow β} (hf : f.Keeps P (· = .ok ())) (hg : (g ()).Keeps P R) :
    (f >>= g).Keeps P R :=
  Keeps.bind hf (fun _ _ => hg) nofun

variable {surroundings : Surroundings} {s : Store}

/-- A flow that only looks at a store, and what it comes to there when nobody disturbs it. -/
structure Finds (surroundings : Surroundings) (s : Store) (Q : Except Refusal α → Prop) (f : Flow α) : Prop where
  looks : f.Looks
  value : ∀ w trail, w.store = s → Q ((f.run.run trail).run surroundings w).2.1

theorem Keeps.finds {f : Flow α} (h : f.Keeps (fun op => op.looks = true) Q) : f.Finds surroundings s Q where
  looks trail := (h trail).mono (fun _ => id) fun _ _ => trivial
  value w trail _ := (h trail).value surroundings w

theorem finds_check (result : Except Refusal α) : (check result).Finds surroundings s (· = result) :=
  (keeps_check (Q := (· = result)) rfl).finds

theorem finds_advance (input : Input) : (advance input).Finds surroundings s (· = .ok ()) :=
  (keeps_advance input fun _ => rfl).finds

/-- A flow that leaves the world as it is, and another on the same trail, both begun on one store. -/
def Foretells (surroundings : Surroundings) (s : Store) (R : Nat → Except Refusal α → Except Refusal β → Prop)
    (f : Flow α) (f' : Flow β) : Prop :=
  ∀ w trail, w.store = s → Work.Foretells (fun begun reached reached' => R begun reached.1 reached'.1) surroundings w
    (f.run.run trail) (f'.run.run trail)

variable {γ : Type}

theorem Foretells.bind {R : Nat → Except Refusal β → Except Refusal γ → Prop} {f : Flow α}
    {g : α → Flow β} {g' : α → Flow γ} (hf : f.Finds surroundings s Q)
    (herror : ∀ refusal, Q (.error refusal) → R 0 (.error refusal) (.error refusal))
    (hg : ∀ a, Q (.ok a) → Foretells surroundings s R (g a) (g' a)) :
    Foretells surroundings s R (f >>= g) (f >>= g') := by
  intro w trail hw
  refine Work.Foretells.bind (hf.looks trail) ?_
  rintro u ⟨result, trail'⟩ hu hreached
  have hresult : result = ((f.run.run trail).run surroundings w).2.1 := congrArg Prod.fst hreached
  have hvalue := hf.value w trail hw
  rw [← hresult] at hvalue
  cases result with
  | ok a => exact hg a hvalue u trail' (hu.store.trans hw)
  | error refusal => exact ⟨.refl u, herror refusal hvalue⟩

/-- Flows that begin with a step that cannot refuse. -/
theorem Foretells.seq {R : Nat → Except Refusal β → Except Refusal γ → Prop} {f : Flow Unit} {g : Unit → Flow β}
    {g' : Unit → Flow γ} (hf : f.Finds surroundings s (· = .ok ())) (hg : Foretells surroundings s R (g ()) (g' ())) :
    Foretells surroundings s R (f >>= g) (f >>= g') :=
  Foretells.bind hf nofun fun _ _ => hg

/-- Work with the rest of a flow, to which its result is handed. -/
theorem run_mk_bind (p : Work (Except Refusal α)) (g : α → Flow β) (trail : Trail) :
    (ExceptT.mk (liftM p) >>= g).run.run trail = p >>= fun
      | .ok a => (g a).run.run trail
      | .error refusal => pure (.error refusal, trail) := by
  refine (Work.bind_pure_bind p (fun result => (result, trail)) _).trans ?_
  congr 1
  funext result
  cases result <;> rfl

end Flow

theorem looks_firstManagedZone (suffixes : List String) : (firstManagedZone suffixes).Looks := by
  induction suffixes with
  | nil => exact Flow.keeps_pure trivial
  | cons zone shorter ih =>
      refine Flow.Looks.bind (Flow.looks_ask ⟨rfl, fun _ => trivial⟩) fun managed => ?_
      cases managed with
      | true => exact Flow.keeps_pure trivial
      | false => exact ih

theorem looks_classify (name : HostName) (zone : Option String) (now : Instant) : (classify name zone now).Looks := by
  cases zone with
  | none => exact Flow.keeps_pure trivial
  | some zone =>
      refine Flow.Looks.bind (Flow.looks_ask ⟨rfl, fun _ => trivial⟩) fun found => ?_
      cases found with
      | some domain => exact Flow.keeps_pure trivial
      | none => exact Flow.keeps_throw trivial

/-- What the store answers where it is in reach, or the fault that was met where it is not. -/
def Answered {α : Type} (answer result : Except Refusal α) : Prop :=
  result = answer ∨ ∃ fault, result = .error (.fault fault)

section Answered

variable {surroundings : Surroundings} {s : Store}

theorem answered_reach {α : Type} (call : Call) (answer : α) :
    Answered (.ok answer) ((World.reach surroundings call answer).mapError .fault) := by
  rw [World.reach]
  cases surroundings.outage call with
  | some fault => exact .inr ⟨fault, rfl⟩
  | none => exact .inl rfl

theorem finds_findHost (name : HostName) (now : Instant) :
    (Flow.ask (Work.perform (.findHost name now))).Finds surroundings s
      (Answered (.ok (s.activeHost name.text now))) where
  looks := Flow.looks_ask ⟨rfl, fun _ => trivial⟩
  value w trail hw := by
    subst hw
    exact answered_reach .host _

theorem finds_firstManagedZone (suffixes : List String) :
    (firstManagedZone suffixes).Finds surroundings s (Answered (.ok (suffixes.find? s.isManaged))) where
  looks := looks_firstManagedZone suffixes
  value w trail hw := by
    subst hw
    induction suffixes with
    | nil => exact .inl rfl
    | cons zone shorter ih =>
        change Answered _ (Prod.fst (Work.run surroundings w (Work.step (.isManaged zone) _)).2)
        rw [Work.run, World.perform, World.reach]
        cases surroundings.outage .zone with
        | some fault => exact .inr ⟨fault, rfl⟩
        | none =>
            cases hmanaged : w.store.isManaged zone with
            | true =>
                rw [List.find?_cons_of_pos hmanaged]
                exact .inl rfl
            | false =>
                rw [List.find?_cons_of_neg (by rw [hmanaged]; exact Bool.false_ne_true)]
                exact ih

theorem finds_classify (name : HostName) (zone : Option String) (now : Instant) :
    (classify name zone now).Finds surroundings s (Answered (placeOn s name zone now)) where
  looks := looks_classify name zone now
  value w trail hw := by
    subst hw
    cases zone with
    | none => exact .inl rfl
    | some zone =>
        change Answered _ (Prod.fst (Work.run surroundings w
          (Work.step (.findDomain (superordinateName name zone) now) _)).2)
        rw [Work.run, World.perform, World.reach, placeOn]
        cases surroundings.outage .domain with
        | some fault => exact .inr ⟨fault, rfl⟩
        | none =>
            cases w.store.activeDomain (superordinateName name zone) now with
            | some domain => exact .inl rfl
            | none => exact .inl rfl

end Answered

/-- The rows of a create with other identifiers. -/
def Created.renewed (created : Created) (ids : FreshIds) : Created where
  host := { created.host with key := ids.host }
  history := { created.history with entryId := ids.entry, hostKey := ids.host }

/-- What a create answers that writes what a dry run would have written, with identifiers of its own. -/
def Response.renewed (response : Response) (ids : FreshIds) : Response :=
  { response with hostKey := ids.host, historyEntry := ids.entry, dryRun := false }

/-- The decision on a create does not depend on the identifiers. -/
theorem decideOn_renewed (name : HostName) (addresses : List IpAddress) (client : ClientId) (now : Instant)
    (correlation : Uuid) (ids drawn : FreshIds) (s : Store) (domainName : Option String) :
    decideOn name addresses client now correlation ids s domainName
      = (decideOn name addresses client now correlation drawn s domainName).map (·.renewed ids) := by
  rw [decideOn, decideOn]
  cases s.activeHost name.text now with
  | some host => rfl
  | none => cases superordinateOn s domainName now <;> rfl

/-- What a dry run has come to on a store, and how many bodies it has begun, against what the create in earnest comes
to. A body that is begun can only refuse a domain in pending delete. -/
structure Predicts (ids : FreshIds) (s : Store) (begun : Nat) (dry real : Except Refusal Response) : Prop where
  value : real = dry.map (·.renewed ids)
  begun_le : begun ≤ 1
  begun_eq : ∀ response, dry = .ok response → begun = 1
  begun_iff : s.Orderly → ∀ refusal, dry = .error refusal →
    (begun = 1 ↔ ∃ d, refusal = .superordinateDomainInPendingDelete d)

/-- A refusal before the transaction. -/
theorem predicts_error {ids : FreshIds} {s : Store} {refusal : Refusal}
    (h : ∀ d, refusal ≠ .superordinateDomainInPendingDelete d) : Predicts ids s 0 (.error refusal) (.error refusal) where
  value := rfl
  begun_le := Nat.zero_le 1
  begun_eq := nofun
  begun_iff _ other hsame := by
    obtain rfl := Except.error.inj hsame
    exact ⟨nofun, fun ⟨d, hd⟩ => absurd hd (h d)⟩

theorem predicts_fault (ids : FreshIds) (s : Store) (fault : Fault) :
    Predicts ids s 0 (.error (.fault fault)) (.error (.fault fault)) :=
  predicts_error nofun

/-- A refusal on formal grounds blames no domain. -/
theorem predicts_of_formal {α : Type} {ids : FreshIds} {s : Store} {result : Except Refusal α} (h : Formal result)
    {refusal : Refusal} (hresult : .error refusal = result) :
    Predicts ids s 0 (.error refusal) (.error refusal) := by
  refine predicts_error fun d hd => ?_
  subst hd
  exact Bool.false_ne_true (h _ hresult.symm)

theorem predicts_of_answered {α : Type} {ids : FreshIds} {s : Store} {answer : α} {refusal : Refusal}
    (h : Answered (.ok answer) (.error refusal)) : Predicts ids s 0 (.error refusal) (.error refusal) := by
  rcases h with hsame | ⟨fault, hfault⟩
  · cases hsame
  · obtain rfl := Except.error.inj hfault
    exact predicts_fault ids s fault

/-- Whatever the queue answers, a request to it refuses nothing. -/
theorem keeps_requestRefresh (service : Service) (name : HostName) :
    (requestRefresh service name).Keeps (fun _ => True) (· = .ok ()) := by
  rw [requestRefresh_eq]
  refine Flow.Keeps.bind (Flow.keeps_perform trivial) (fun delivery _ trail => ?_) nofun
  obtain ⟨event, next, hrun⟩ := exists_report_of_refreshed service name delivery trail
  rw [hrun]
  exact ⟨trivial, fun _ => rfl⟩

namespace Request

/-- A request as a dry run, with identifiers that come to nothing. -/
def rehearsal (q : Request) (drawn : Nat → FreshIds) : Request :=
  { q with context := { q.context with dryRun := true }, ids := drawn }

/-- A request that is no dry run. -/
def inEarnest (q : Request) : Request := { q with context := { q.context with dryRun := false } }

variable (q : Request) (drawn : Nat → FreshIds) (client : ClientId) (name : HostName) (placement : Placement)

theorem keeps_conclude_rehearsal (created : Created) :
    ((q.rehearsal drawn).conclude client name placement created).Keeps (fun op => op.looks = true)
      (· = .ok (.ofCreated created true)) := by
  have hdry : (q.rehearsal drawn).context.dryRun = true := rfl
  rw [conclude, if_pos hdry]
  refine Flow.keeps_seq (Flow.keeps_advance _ fun _ => rfl) ?_
  exact Flow.keeps_seq (Flow.keeps_report _ rfl) (Flow.keeps_pure rfl)

theorem keeps_conclude_inEarnest (created : Created) :
    (q.inEarnest.conclude client name placement created).Keeps (fun _ => True)
      (· = .ok (.ofCreated created false)) := by
  rw [conclude, if_neg (by exact Bool.false_ne_true)]
  refine Flow.keeps_seq (Flow.keeps_advance _ fun _ => trivial) ?_
  refine Flow.keeps_seq (Flow.keeps_report _ trivial) ?_
  have hrecord : (Flow.perform (.recordActivity activityName) >>= fun _ =>
      pure (Response.ofCreated created false)).Keeps (fun _ => True) (· = .ok (.ofCreated created false)) :=
    Flow.Keeps.bind (Flow.keeps_perform trivial) (fun _ _ => Flow.keeps_pure rfl) (by rintro _ ⟨_, ⟨⟩⟩)
  cases placement with
  | external => exact hrecord
  | subordinate domain => exact Flow.keeps_seq (keeps_requestRefresh q.service name) hrecord

variable (addresses : List IpAddress)

/-- A create in earnest decides in its transaction what a dry run decides. -/
theorem evaluate_attempt_renewed (s : Store) :
    ((q.inEarnest.attempt client name placement addresses 1).evaluate s []).1
      = (((q.rehearsal drawn).attempt client name placement addresses 1).evaluate s []).1.map
          (·.renewed (q.ids 1)) := by
  rw [evaluate_attempt, evaluate_attempt]
  exact decideOn_renewed name addresses client q.context.now q.context.correlation (q.ids 1) (drawn 1) s _

variable {surroundings : Surroundings} {s : Store} {client name placement addresses} {zone : Option String}

/-- A domain in pending delete is all that can be objected to after the other checks. -/
theorem eq_of_settles_purging? {refusal : Refusal}
    (h : Settles (q.purging? s name zone) (.error refusal : Except Refusal Created)) :
    ∃ d, refusal = .superordinateDomainInPendingDelete d := by
  cases zone with
  | none =>
      obtain ⟨_, ⟨⟩⟩ := h
  | some zone =>
      rw [purging?, Option.bind_some] at h
      cases hfound : s.activeDomain (superordinateName name zone) q.context.now with
      | none =>
          rw [hfound] at h
          obtain ⟨_, ⟨⟩⟩ := h
      | some domain =>
          rw [hfound, Option.bind_some] at h
          split at h
          · exact ⟨_, Except.error.inj h⟩
          · obtain ⟨_, ⟨⟩⟩ := h

theorem checkUnique_ne_pendingDelete {holder : Option Host} {pass : Pass} {d : String} :
    checkUnique holder name client pass ≠ .error (.superordinateDomainInPendingDelete d) := by
  intro h
  cases holder with
  | none => cases h
  | some host =>
      rw [checkUnique] at h
      split at h <;> cases h

theorem placeOn_ne_pendingDelete {now : Instant} {d : String} :
    placeOn s name zone now ≠ .error (.superordinateDomainInPendingDelete d) := by
  intro h
  cases zone with
  | none => cases h
  | some zone =>
      rw [placeOn] at h
      split at h <;> cases h

/-- On the store that its checks have looked at, a body can only refuse a domain in pending delete. -/
theorem predicts_decided (hplace : placeOn s name zone q.context.now = .ok placement)
    (hfree : s.activeHost name.text q.context.now = none) {refusal : Refusal}
    (h : .error refusal = decideOn name addresses client q.context.now q.context.correlation (drawn 1) s
      (placement.superordinate?.map Domain.name)) :
    Predicts (q.ids 1) s 1 (.error refusal) (.error refusal) where
  value := rfl
  begun_le := Nat.le_refl 1
  begun_eq := nofun
  begun_iff horderly other hsame := by
    obtain rfl := Except.error.inj hsame
    have hsettles : Settles (q.purging? s name zone) (.error refusal : Except Refusal Created) := by
      rw [h]
      exact settles_decideOn (q := q.rehearsal drawn) horderly hplace hfree
    exact ⟨fun _ => q.eq_of_settles_purging? hsettles, fun _ => rfl⟩

theorem foretells_carryOut (hplace : placeOn s name zone q.context.now = .ok placement)
    (hfree : s.activeHost name.text q.context.now = none) :
    Flow.Foretells surroundings s (Predicts (q.ids 1) s)
      ((q.rehearsal drawn).carryOut client name placement addresses)
      (q.inEarnest.carryOut client name placement addresses) := by
  intro w trail hw
  have htransact := Transaction.foretells_transact surroundings w (body_eq ..)
    (evaluate_attempt_renewed q drawn client name placement addresses) q.service.maxAttempts
  rw [evaluate_attempt, hw] at htransact
  rw [carryOut, carryOut, Flow.run_mk_bind, Flow.run_mk_bind]
  refine htransact.seq fun begun dry real h => ?_
  rw [h.value]
  rcases h.begun_cases with ⟨rfl, hdecided⟩ | ⟨rfl, fault, rfl⟩
  · cases dry with
    | error refusal => exact predicts_decided q drawn hplace hfree hdecided
    | ok created =>
        refine (keeps_conclude_rehearsal q drawn client name placement created trail).mono (fun _ => id) ?_
        rintro ⟨_, _⟩ rfl
        refine (keeps_conclude_inEarnest q client name placement _ trail).mono (fun _ => id) ?_
        rintro ⟨_, _⟩ rfl
        exact ⟨rfl, Nat.le_refl 1, fun _ _ => rfl, nofun⟩
  · exact predicts_fault (q.ids 1) s fault

theorem foretells_settle (hplace : placeOn s name zone q.context.now = .ok placement) :
    Flow.Foretells surroundings s (Predicts (q.ids 1) s) ((q.rehearsal drawn).settle client name placement)
      (q.inEarnest.settle client name placement) := by
  refine Flow.Foretells.seq (Flow.finds_advance _) ?_
  refine Flow.Foretells.bind (Flow.finds_check _) (fun _ => predicts_of_formal (formal_resolveAddresses _ _))
    fun addresses _ => ?_
  refine Flow.Foretells.bind (finds_findHost name q.context.now) (fun _ => predicts_of_answered) fun holder hholder => ?_
  obtain rfl : holder = s.activeHost name.text q.context.now := by
    rcases hholder with hsame | ⟨_, hfault⟩
    · exact Except.ok.inj hsame
    · cases hfault
  refine Flow.Foretells.bind (Flow.finds_check _) (fun refusal hheld => ?_) fun _ hfree => ?_
  · refine predicts_error fun d hd => ?_
    subst hd
    exact checkUnique_ne_pendingDelete hheld.symm
  · refine Flow.Foretells.seq (Flow.finds_advance _) ?_
    refine Flow.Foretells.seq (Flow.finds_advance _) ?_
    exact q.foretells_carryOut drawn hplace (eq_none_of_checkUnique hfree.symm)

theorem foretells_stages :
    Flow.Foretells surroundings s (Predicts (q.ids 1) s) (q.rehearsal drawn).stages q.inEarnest.stages := by
  rw [stages, stages]
  have hclient : (q.rehearsal drawn).context.client = q.inEarnest.context.client := rfl
  rw [hclient]
  cases q.inEarnest.context.client with
  | none => exact fun w _ _ => ⟨.refl w, predicts_error fun d hd => by cases hd⟩
  | some client =>
      refine Flow.Foretells.bind (Flow.finds_check _) (fun _ => predicts_of_formal (formal_parse _)) fun name _ => ?_
      refine Flow.Foretells.bind (finds_firstManagedZone _) (fun _ => predicts_of_answered) fun zone _ => ?_
      refine Flow.Foretells.bind (Flow.finds_check _) (fun _ => predicts_of_formal (formal_checkDepth _ _ _))
        fun _ _ => ?_
      refine Flow.Foretells.seq (Flow.finds_advance _) ?_
      refine Flow.Foretells.bind (finds_classify name zone _) (fun refusal h => ?_) fun placement h => ?_
      · rcases h with hplace | ⟨fault, hfault⟩
        · refine predicts_error fun d hd => ?_
          subst hd
          exact placeOn_ne_pendingDelete hplace.symm
        · obtain rfl := Except.error.inj hfault
          exact predicts_fault (q.ids 1) s fault
      · rcases h with hplace | ⟨fault, hfault⟩
        · exact q.foretells_settle drawn hplace.symm
        · cases hfault

theorem keeps_report (result : Except Refusal Response) (trail : Trail) :
    (q.report result trail).Keeps (fun op => op.looks = true) (· = result) := by
  cases result with
  | ok response => exact ⟨rfl, fun _ => rfl⟩
  | error refusal => exact (Flow.looks_advance (.failed refusal) trail).bind fun _ _ => ⟨rfl, fun _ => rfl⟩

/-- A dry run foretells the create in earnest. -/
theorem foretells_work (surroundings : Surroundings) (w : World) :
    Work.Foretells (Predicts (q.ids 1) w.store) surroundings w (q.rehearsal drawn).work q.inEarnest.work := by
  rw [work_eq, work_eq]
  refine Work.Foretells.bind (p := Work.perform (.report (.received q.command.hostName q.context.correlation)))
    (Q := fun _ => True) ⟨rfl, fun _ => trivial⟩ fun u _ hu _ => ?_
  refine (q.foretells_stages drawn u (.start .received) hu.store).seq fun begun reached reached' h => ?_
  refine (keeps_report _ reached.1 reached.2).mono (fun _ => id) ?_
  rintro _ rfl
  refine (keeps_report _ reached'.1 reached'.2).mono (fun _ _ => trivial) ?_
  rintro _ rfl
  exact h

end Request

/-- The world after some dry runs, one after the other. -/
def rehearsed (w : World) : List (Surroundings × Request) → World
  | [] => w
  | (surroundings, q) :: rest => rehearsed ((q.rehearsal q.ids).work.run surroundings w).1 rest

theorem alike_rehearsed (w : World) (dries : List (Surroundings × Request)) : w.Alike (rehearsed w dries) := by
  induction dries generalizing w with
  | nil => exact .refl w
  | cons dry rest ih => exact (dry.2.foretells_work dry.2.ids dry.1 w).alike.trans (ih _)

/-- A create that nobody disturbs answers what its dry run has answered, but for the identifiers, and is refused for
what its dry run was refused. A dry run leaves store, queue and activity as they were. It begins one body if it succeeds
or if that body refuses a domain in pending delete, and none if it is refused before; no number of dry runs changes what
a request after them answers or leaves. -/
theorem createHost_rehearsed (q : Request) (drawn : Nat → FreshIds) (surroundings : Surroundings) (w : World) :
    let dry := (q.rehearsal drawn).work
    (q.inEarnest.work.run surroundings w).2 = (dry.run surroundings w).2.map (·.renewed (q.ids 1)) ∧
      w.Alike (dry.run surroundings w).1 ∧
      dry.begun surroundings w ≤ 1 ∧
      (∀ response, (dry.run surroundings w).2 = .ok response → dry.begun surroundings w = 1) ∧
      (w.store.Built → ∀ refusal, (dry.run surroundings w).2 = .error refusal →
        (dry.begun surroundings w = 1 ↔ ∃ d, refusal = .superordinateDomainInPendingDelete d)) ∧
      ∀ dries : List (Surroundings × Request),
        (q.work.run surroundings (rehearsed w dries)).2 = (q.work.run surroundings w).2 ∧
          (q.work.run surroundings w).1.Alike (q.work.run surroundings (rehearsed w dries)).1 := by
  intro dry
  obtain ⟨halike, hpredicts⟩ := q.foretells_work drawn surroundings w
  refine ⟨hpredicts.value, halike, hpredicts.begun_le, hpredicts.begun_eq,
    fun hbuilt => hpredicts.begun_iff hbuilt.orderly, fun dries => ?_⟩
  obtain ⟨hsame, hleft⟩ := Work.run_alike surroundings (alike_rehearsed w dries) q.work
  exact ⟨hsame.symm, hleft⟩

/-- A store in which the domain under a managed zone is in pending delete. -/
def purged : Store :=
  delegated.edit (.putDomain ((Domain.new ⟨.ofNat 7⟩ "example.tld" ⟨"TheRegistrar"⟩ .epoch).withPendingDelete
    (Instant.epoch.addDays 5)))

/-- The body is begun and refuses the domain that the checks before it have let pass. -/
theorem createHost_rehearsed_purged :
    purged.Built ∧
      let q := glued ⟨"TheRegistrar"⟩ [⟨.v4, "192.0.2.1"⟩]
      ((q.rehearsal q.ids).work.run .calm { store := purged }).2
          = .error (.superordinateDomainInPendingDelete "example.tld") ∧
        (q.rehearsal q.ids).work.begun .calm { store := purged } = 1 := by
  have hbuilt : purged.Built := .edit built_delegated _
  refine ⟨hbuilt, ?_⟩
  intro q
  have hrefused : ((q.rehearsal q.ids).work.run .calm { store := purged }).2
      = .error (.superordinateDomainInPendingDelete "example.tld") := by
    decide +kernel
  obtain ⟨-, -, -, -, hbegun, -⟩ := createHost_rehearsed q q.ids .calm { store := purged }
  exact ⟨hrefused, (hbegun hbuilt _ hrefused).2 ⟨_, rfl⟩⟩

end Bailiwick.Create
