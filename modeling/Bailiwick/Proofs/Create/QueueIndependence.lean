import Bailiwick.Proofs.Create.Runs
import Bailiwick.Proofs.Lockstep

/-!
Creates do not depend on the queue. Whatever the queue answers, a create carries out the same operations but for
what it reports and answers the same, so runs that differ only in the answers of the queue have the same store and
the same results.
-/

namespace Bailiwick.Create

namespace Flow

variable {α β : Type}

/-- A flow does the same whatever its trail and whatever the queue answers, and comes to the same result. -/
def Steady (f : Flow α) : Prop :=
  ∀ trail trail', (f.run.run trail).Parallel (fun reached reached' => reached.1 = reached'.1) (f.run.run trail')

theorem steady_pure (a : α) : Steady (pure a) := fun _ _ => .done rfl

theorem steady_throw (refusal : Refusal) : Steady (throw refusal : Flow α) := fun _ _ => .done rfl

theorem steady_check (result : Except Refusal α) : (check result).Steady := fun _ _ => .done rfl

theorem Steady.bind {f : Flow α} {g : α → Flow β} (hf : f.Steady) (hg : ∀ a, (g a).Steady) : (f >>= g).Steady := by
  intro trail trail'
  refine Work.Parallel.bind (hf trail trail') ?_
  rintro ⟨result, next⟩ ⟨_, next'⟩ rfl
  cases result with
  | ok a => exact hg a next next'
  | error refusal => exact .done rfl

/-- Work that does not depend on the queue, with its value turned into a result. -/
theorem steady_map {p : Work β} {f : β → Except Refusal α} (hp : p.Parallel (· = ·) p) :
    Steady (ExceptT.mk do return f (← liftM p)) := by
  intro trail trail'
  have hpair : (p >>= fun b => pure (b, trail)).Parallel (fun reached reached' => reached.1 = reached'.1)
      (p >>= fun b => pure (b, trail')) := hp.bind fun _ _ h => .done h
  exact hpair.bind fun _ _ h => .done (congrArg f h)

/-- Work whose result is that of the flow. -/
theorem steady_mk {p : Work (Except Refusal α)} (hp : p.Parallel (· = ·) p) : Steady (ExceptT.mk (liftM p)) := by
  intro trail trail'
  exact hp.bind fun _ _ h => .done h

theorem steady_perform {op : Op} (hop : ∀ name, op ≠ .enqueueRefresh name) : (perform op).Steady :=
  steady_map (f := .ok) (Work.parallel_perform op hop)

theorem steady_ask {call : Work (Except Fault α)} (hcall : call.Parallel (· = ·) call) : (ask call).Steady :=
  steady_map hcall

/-- Reports on two trails may differ. -/
theorem parallel_report (event event' : Event) (trail trail' : Trail) :
    ((perform (.report event)).run.run trail).Parallel (fun reached reached' => reached.1 = reached'.1)
      ((perform (.report event')).run.run trail') :=
  .report (.done rfl)

/-- Whether or not a trail allows a move, the move comes to one report. -/
theorem exists_report_of_advance (input : Input) (trail : Trail) : ∃ event next,
    (advance input).run.run trail = (perform (.report event)).run.run next := by
  cases hnext : trail.advance input with
  | ok next => exact ⟨_, next, run_advance_ok hnext⟩
  | error misstep => exact ⟨_, trail, run_advance_error hnext⟩

theorem steady_advance (input : Input) : (advance input).Steady := by
  intro trail trail'
  obtain ⟨event, next, hrun⟩ := exists_report_of_advance input trail
  obtain ⟨event', next', hrun'⟩ := exists_report_of_advance input trail'
  rw [hrun, hrun']
  exact parallel_report event event' next next'

end Flow

/-- What follows a call of the queue. -/
def refreshed (service : Service) (name : HostName) : Delivery → Flow Unit
  | .accepted => Flow.advance .dnsRefreshEnqueued
  | .rejected cause => Flow.perform (.report (.refreshRejected name cause))
  | .late => Flow.perform (.report (.refreshLate name service.refreshDeadline))

theorem requestRefresh_eq (service : Service) (name : HostName) :
    requestRefresh service name = Flow.perform (.enqueueRefresh name) >>= refreshed service name := by
  rw [requestRefresh]
  congr 1
  funext delivery
  cases delivery <;> rfl

/-- Whatever the queue answers, one report follows. -/
theorem exists_report_of_refreshed (service : Service) (name : HostName) (delivery : Delivery) (trail : Trail) :
    ∃ event next,
      (refreshed service name delivery).run.run trail = (Flow.perform (.report event)).run.run next := by
  cases delivery with
  | accepted => exact Flow.exists_report_of_advance .dnsRefreshEnqueued trail
  | rejected cause => exact ⟨_, trail, rfl⟩
  | late => exact ⟨_, trail, rfl⟩

theorem steady_requestRefresh (service : Service) (name : HostName) : (requestRefresh service name).Steady := by
  rw [requestRefresh_eq]
  intro trail trail'
  refine .refresh fun delivery delivery' => ?_
  obtain ⟨event, next, hrun⟩ := exists_report_of_refreshed service name delivery trail
  obtain ⟨event', next', hrun'⟩ := exists_report_of_refreshed service name delivery' trail'
  change ((refreshed service name delivery).run.run trail).Parallel _
    ((refreshed service name delivery').run.run trail')
  rw [hrun, hrun']
  exact Flow.parallel_report event event' next next'

theorem steady_firstManagedZone (suffixes : List String) : (firstManagedZone suffixes).Steady := by
  induction suffixes with
  | nil => exact Flow.steady_pure none
  | cons zone shorter ih =>
      refine Flow.Steady.bind (Flow.steady_ask (Work.parallel_perform (.isManaged zone) nofun)) fun managed => ?_
      cases managed with
      | true => exact Flow.steady_pure (some zone)
      | false => exact ih

theorem steady_classify (name : HostName) (zone : Option String) (now : Instant) :
    (classify name zone now).Steady := by
  cases zone with
  | none => exact Flow.steady_pure Placement.external
  | some zone =>
      refine Flow.Steady.bind (Flow.steady_ask (Work.parallel_perform (.findDomain _ now) nofun)) fun found => ?_
      cases found with
      | some domain => exact Flow.steady_pure (Placement.subordinate domain)
      | none => exact Flow.steady_throw _

namespace Request

variable (q : Request) (client : ClientId) (name : HostName) (placement : Placement)

theorem steady_conclude (created : Created) : (q.conclude client name placement created).Steady := by
  rw [conclude]
  split
  · refine (Flow.steady_advance _).bind fun _ => ?_
    exact Flow.Steady.bind (Flow.steady_perform (by rintro _ ⟨⟩)) fun _ => Flow.steady_pure _
  · refine (Flow.steady_advance _).bind fun _ => Flow.Steady.bind (Flow.steady_perform (by rintro _ ⟨⟩)) fun _ => ?_
    have hrecord : (Flow.perform (.recordActivity activityName) >>= fun _ =>
        pure (Response.ofCreated created false)).Steady :=
      Flow.Steady.bind (Flow.steady_perform (by rintro _ ⟨⟩)) fun _ => Flow.steady_pure _
    cases placement with
    | external => exact hrecord
    | subordinate domain => exact (steady_requestRefresh q.service name).bind fun _ => hrecord

theorem steady_settle : (q.settle client name placement).Steady := by
  refine (Flow.steady_advance _).bind fun _ => (Flow.steady_check _).bind fun addresses => ?_
  refine Flow.Steady.bind (Flow.steady_ask (Work.parallel_perform (.findHost name _) nofun)) fun holder => ?_
  refine (Flow.steady_check _).bind fun _ => (Flow.steady_advance _).bind fun _ => ?_
  refine (Flow.steady_advance _).bind fun _ => ?_
  refine (Flow.steady_mk (Transaction.parallel_transact _ _ _)).bind fun created => ?_
  exact q.steady_conclude client name placement created

theorem steady_stages : q.stages.Steady := by
  rw [stages]
  cases q.context.client with
  | none => exact Flow.steady_throw _
  | some client =>
      refine (Flow.steady_check _).bind fun name => (steady_firstManagedZone _).bind fun zone => ?_
      refine (Flow.steady_check _).bind fun _ => (Flow.steady_advance _).bind fun _ => ?_
      exact (steady_classify name zone _).bind fun placement => q.steady_settle client name placement

theorem parallel_report (result : Except Refusal Response) (trail trail' : Trail) :
    (q.report result trail).Parallel (· = ·) (q.report result trail') := by
  cases result with
  | ok response => exact .report (.done rfl)
  | error refusal =>
      refine Work.Parallel.bind (Flow.steady_advance (.failed refusal) trail trail') fun _ _ _ => ?_
      exact .report (.done rfl)

/-- A create goes the same way whatever the queue answers. -/
theorem parallel_work : q.work.Parallel (· = ·) q.work := by
  rw [q.work_eq]
  refine .report (Work.Parallel.bind (q.steady_stages _ _) ?_)
  rintro ⟨result, trail⟩ ⟨_, trail'⟩ rfl
  exact q.parallel_report result trail trail'

end Request

/-- Acts that differ at most in how the queue answers. -/
inductive Act.Agrees : Act → Act → Prop where
  | edit (e : Store.Edit) : Agrees (.edit e) (.edit e)
  | submit (q : Request) : Agrees (.submit q) (.submit q)
  | turn {number : Nat} {surroundings surroundings' : Surroundings}
      (hreach : surroundings.outage = surroundings'.outage) :
      Agrees (.turn number surroundings) (.turn number surroundings')

theorem Act.Agrees.move {act act' : Act} (h : act.Agrees act') : act.move.Agrees act'.move := by
  cases h with
  | edit e => exact .edit e
  | submit q => exact .submit q.parallel_work
  | turn hreach => exact .turn hreach

/-- Runs of creates that differ at most in how the queue answers lead to the same store and the same results. -/
theorem agrees_play (w : World) {acts acts' : List Act} (h : List.Forall₂ Act.Agrees acts acts') :
    ((opened w).play (moves acts)).Agrees ((opened w).play (moves acts')) := by
  have hmoves : List.Forall₂ Move.Agrees (moves acts) (moves acts') := by
    rw [moves, moves, List.forall₂_map_left_iff, List.forall₂_map_right_iff]
    exact h.imp fun _ _ hact => hact.move
  have hopened : (opened w).Agrees (opened w) := ⟨rfl, .nil⟩
  exact hopened.play hmoves

end Bailiwick.Create
