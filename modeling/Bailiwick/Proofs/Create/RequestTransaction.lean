import Bailiwick.Proofs.Create.Outcome
import Bailiwick.Proofs.Create.Rehearsal
import Bailiwick.Proofs.Create.Runs
import Bailiwick.Proofs.Transaction.Accounts

/-!
The transaction of a request in a run. A request that has come to a result was refused before its transaction, or has
gone through one transaction that decided the result; before and after that transaction it does nothing that belongs to
one. So its chronicle is told by the attempts of that transaction.
-/

namespace Bailiwick

/-- What only looks belongs to no transaction. -/
theorem Op.not_engages_of_looks {op : Op} (h : op.looks = true) : op.engages = false := by
  cases op <;> first | rfl | cases h

namespace Create

open Deed

variable {α β : Type} {c : Company} {number : Nat} {u w : World} {deeds : List Deed}

namespace Flow

/-- A flow of the request with a number has gone from a world through deeds that a company bears, and has come to a
result. -/
structure Goes (c : Company) (number : Nat) (f : Flow α) (u : World) (deeds : List Deed) (result : Except Refusal α) :
    Prop where
  takes : ∃ trail trail', (f.run.run trail).Takes number deeds (.done (result, trail'))
  unbroken : Unbroken u deeds
  borne : c.Bears number u deeds

namespace Goes

/-- A flow in two parts goes through the first, and then through the second unless the first has refused. -/
theorem exists_bind {f : Flow α} {g : α → Flow β} {result : Except Refusal β}
    (h : (f >>= g).Goes c number u deeds result) :
    ∃ reached before after, deeds = before ++ after ∧ f.Goes c number u before reached ∧
      match reached with
      | .ok a => (g a).Goes c number (u.through before) after result
      | .error refusal => result = .error refusal ∧ Asides number after := by
  obtain ⟨trail, trail', htakes⟩ := h.takes
  obtain ⟨⟨reached, next⟩, before, after, rfl, hbefore, hafter⟩ :=
    Work.Takes.exists_bind (p := f.run.run trail) htakes
  obtain ⟨hfirst, hrest⟩ := unbroken_append.1 h.unbroken
  obtain ⟨hborne, hborne'⟩ := Company.bears_append.1 h.borne
  refine ⟨reached, before, after, rfl, ⟨⟨trail, next, hbefore⟩, hfirst, hborne⟩, ?_⟩
  cases reached with
  | ok a => exact ⟨⟨next, trail', hafter⟩, hrest, hborne'⟩
  | error refusal =>
      obtain ⟨hdone, hasides⟩ := hafter.of_done
      cases hdone
      exact ⟨rfl, hasides⟩

variable {f : Flow α} {result : Except Refusal α}

theorem keeps {P : Op → Prop} {Q : Except Refusal α → Prop} (h : f.Goes c number u deeds result)
    (hf : f.Keeps P Q) : (∀ turn, Deed.turn number turn ∈ deeds → P turn.op) ∧ Q result := by
  obtain ⟨trail, trail', htakes⟩ := h.takes
  exact htakes.keeps (hf trail)

/-- A flow that only looks has no part in a transaction. -/
theorem idle (h : f.Goes c number u deeds result) (hf : f.Looks) : Idle number deeds :=
  fun turn hturn => Op.not_engages_of_looks ((h.keeps hf).1 turn hturn)

/-- What a flow observes holds when it has gone through some deeds. -/
theorem observes {P : World → Except Refusal α → Prop} (h : f.Goes c number u deeds result)
    (hf : f.Observes c u P) : P (u.through deeds) result := by
  obtain ⟨trail, trail', htakes⟩ := h.takes
  exact (htakes.ensures_done h.unbroken h.borne (hf trail)).2.2.2

theorem changes (h : f.Goes c number u deeds result) : c.changes u (u.through deeds) :=
  h.borne.changes

end Goes

end Flow

variable {q : Request} {client : ClientId} {name : HostName} {zone : Option String} {placement : Placement}
  {addresses : List IpAddress} {result : Except Refusal Response}

/-- A request that was begun in a world and has come to another goes on through some deeds to a result: it is refused
before its transaction, or passes every check and goes through its transaction. -/
inductive Journey (c : Company) (number : Nat) (q : Request) (w u : World) (deeds : List Deed) :
    Except Refusal Response → Prop where
  | objected {now : World} {refusal : Refusal} {trail : Trail} (hidle : Idle number deeds)
      (h : Objected c q w now refusal trail) (hnow : c.changes now (u.through deeds)) :
      Journey c number q w u deeds (.error refusal)
  | transacted (before during after : List Deed) {client : ClientId} {name : HostName} {zone : Option String}
      {placement : Placement} {addresses : List IpAddress} {reached : Except Refusal Created}
      (hdeeds : deeds = before ++ during ++ after) (hbefore : Idle number before) (hafter : Idle number after)
      (hpassed : Passed c q w (u.through before) client name zone placement addresses)
      (htakes : (Transaction.transact q.mode q.service.maxAttempts
        (q.attempt client name placement addresses)).Takes number during (.done reached)) :
      Journey c number q w u deeds (reached.map fun created => .ofCreated created q.context.dryRun)

/-- A journey may have begun with deeds in which the request had no part in a transaction. -/
theorem Journey.prepend {before : List Deed} (hbefore : Idle number before)
    (h : Journey c number q w (u.through before) deeds result) : Journey c number q w u (before ++ deeds) result := by
  cases h with
  | objected hidle h hnow =>
      rw [← World.through_append] at hnow
      exact .objected (hbefore.append hidle) h hnow
  | transacted here during after hdeeds hhere hafter hpassed htakes =>
      rw [← World.through_append] at hpassed
      refine .transacted (before ++ here) during after ?_ (hbefore.append hhere) hafter hpassed htakes
      rw [hdeeds]
      simp only [List.append_assoc]

/-- A journey may end with deeds in which the request had no part in a transaction. -/
theorem Journey.append {after : List Deed} (hafter : Idle number after)
    (hchanges : c.changes (u.through deeds) ((u.through deeds).through after))
    (h : Journey c number q w u deeds result) : Journey c number q w u (deeds ++ after) result := by
  cases h with
  | objected hidle h hnow =>
      refine .objected (hidle.append hafter) h ?_
      rw [World.through_append]
      exact c.trans hnow hchanges
  | transacted before during rest hdeeds hbefore hrest hpassed htakes =>
      refine .transacted before during (rest ++ after) ?_ hbefore (hrest.append hafter) hpassed htakes
      rw [hdeeds, List.append_assoc]

/-- A part of a request that only looks is refused, or is followed by the rest of the journey. -/
theorem Journey.of_bind {f : Flow α} {g : α → Flow Response} (h : (f >>= g).Goes c number u deeds result)
    (hf : f.Looks)
    (herror : ∀ before refusal, f.Goes c number u before (.error refusal) →
      ∃ trail, Objected c q w (u.through before) refusal trail)
    (hok : ∀ before after a, f.Goes c number u before (.ok a) → (g a).Goes c number (u.through before) after result →
      Journey c number q w (u.through before) after result) : Journey c number q w u deeds result := by
  obtain ⟨reached, before, after, rfl, hbefore, hafter⟩ := h.exists_bind
  cases reached with
  | ok a => exact (hok before after a hbefore hafter).prepend (hbefore.idle hf)
  | error refusal =>
      obtain ⟨rfl, hasides⟩ := hafter
      obtain ⟨trail, hobjected⟩ := herror before refusal hbefore
      refine .objected ((hbefore.idle hf).append hasides.idle) hobjected ?_
      rw [World.through_append]
      exact (Company.bears_append.1 h.borne).2.changes

/-- A move of the trail is no obstacle. -/
theorem Journey.of_advance_bind {input : Input} {g : Unit → Flow Response}
    (h : (Flow.advance input >>= g).Goes c number u deeds result)
    (hok : ∀ before after, (Flow.advance input).Goes c number u before (.ok ()) →
      (g ()).Goes c number (u.through before) after result →
      Journey c number q w (u.through before) after result) : Journey c number q w u deeds result :=
  Journey.of_bind h (Flow.looks_advance input)
    (fun _ _ hfirst => nomatch (hfirst.keeps (Flow.keeps_advance (P := fun _ => True) input fun _ => trivial)).2)
    fun before after _ hfirst => hok before after hfirst

/-- What follows a transaction that came to a value has no part in a transaction and refuses nothing. -/
theorem keeps_conclude (created : Created) :
    (q.conclude client name placement created).Keeps (fun op => op.engages = false)
      (· = .ok (.ofCreated created q.context.dryRun)) := by
  rw [Request.conclude]
  cases hdry : q.context.dryRun with
  | true =>
      rw [if_pos rfl]
      refine Flow.keeps_seq (Flow.keeps_advance _ fun _ => rfl) ?_
      exact Flow.keeps_seq (Flow.keeps_report _ rfl) (Flow.keeps_pure rfl)
  | false =>
      rw [if_neg Bool.false_ne_true]
      refine Flow.keeps_seq (Flow.keeps_advance _ fun _ => rfl) ?_
      refine Flow.keeps_seq (Flow.keeps_report _ rfl) ?_
      have hrecord : (Flow.perform (.recordActivity activityName) >>= fun _ =>
          pure (Response.ofCreated created false)).Keeps (fun op => op.engages = false)
            (· = .ok (.ofCreated created false)) :=
        Flow.Keeps.bind (Flow.keeps_perform rfl) (fun _ _ => Flow.keeps_pure rfl) (by rintro _ ⟨_, ⟨⟩⟩)
      cases placement with
      | external => exact hrecord
      | subordinate domain =>
          refine Flow.keeps_seq ?_ hrecord
          rw [requestRefresh_eq]
          refine Flow.Keeps.bind (Flow.keeps_perform rfl) (fun delivery _ trail => ?_) (by rintro _ ⟨_, ⟨⟩⟩)
          obtain ⟨event, next, hrun⟩ := exists_report_of_refreshed q.service name delivery trail
          rw [hrun]
          exact ⟨rfl, fun _ => rfl⟩

theorem journey_carryOut (hpassed : Passed c q w u client name zone placement addresses)
    (h : (q.carryOut client name placement addresses).Goes c number u deeds result) :
    Journey c number q w u deeds result := by
  obtain ⟨trail, trail', htakes⟩ := h.takes
  rw [Request.carryOut, Flow.run_mk_bind] at htakes
  obtain ⟨reached, during, after, rfl, hduring, hafter⟩ := htakes.exists_bind
  -- Only the transaction engages the store; its result is the result of the request.
  have hidle : Idle number after ∧ result = reached.map fun created => .ofCreated created q.context.dryRun := by
    cases reached with
    | error refusal =>
        obtain ⟨hdone, hasides⟩ := hafter.of_done
        cases hdone
        exact ⟨hasides.idle, rfl⟩
    | ok created => exact hafter.keeps (keeps_conclude created trail)
  rw [hidle.2]
  exact .transacted [] during after rfl (asides_nil number).idle hidle.1 hpassed hduring

theorem journey_settle (hsite : Sited c q w u client name zone placement) (hu : c.changes w u)
    (h : (q.settle client name placement).Goes c number u deeds result) : Journey c number q w u deeds result := by
  refine Journey.of_advance_bind h fun before after hadvance hrest => ?_
  have hsite := hsite.of_changes hadvance.changes
  have hu := c.trans hu hadvance.changes
  refine Journey.of_bind hrest (Flow.keeps_check trivial) (fun before refusal hcheck => ?_)
    fun before after addresses hcheck hrest => ?_
  · exact ⟨_, .misaddressed (hsite.of_changes hcheck.changes) (hcheck.observes (Flow.observes_check _)).symm⟩
  have haddresses := (hcheck.observes (Flow.observes_check _)).symm
  have hsite := hsite.of_changes hcheck.changes
  have hu := c.trans hu hcheck.changes
  refine Journey.of_bind hrest (Flow.looks_ask ⟨rfl, fun _ => trivial⟩) (fun before refusal hask => ?_)
    fun before after holder hask hrest => ?_
  · obtain ⟨houtage⟩ := hask.observes (observes_findHost name q.context.now _)
    exact ⟨_, .hostOutage (hsite.of_changes hask.changes) haddresses houtage⟩
  obtain _ | hseen := hask.observes (observes_findHost name q.context.now _)
  have hmet := hseen.widen hu (c.refl _)
  have hsite := hsite.of_changes hask.changes
  refine Journey.of_bind hrest (Flow.keeps_check trivial) (fun before refusal hcheck => ?_)
    fun before after _ hcheck hmoves => ?_
  · have hrefused := hcheck.observes (Flow.observes_check _)
    cases holder with
    | none => cases hrefused
    | some host =>
        rw [checkUnique_advisory] at hrefused
        obtain rfl := Except.error.inj hrefused
        exact ⟨_, .held (hsite.of_changes hcheck.changes) haddresses (hmet.of_changes hcheck.changes)⟩
  obtain rfl := eq_none_of_checkUnique (hcheck.observes (Flow.observes_check _)).symm
  have hpassed : Passed c q w _ client name zone placement addresses := ⟨hsite, haddresses, hmet⟩
  refine Journey.of_advance_bind hmoves fun before' after' hfirst hmoves' => ?_
  refine Journey.of_advance_bind hmoves' fun before'' after'' hsecond htransact => ?_
  have hchanges := c.trans hcheck.changes (c.trans hfirst.changes hsecond.changes)
  exact journey_carryOut (hpassed.of_changes hchanges) htransact

theorem journey_place (hzone : Zoned c q w u client name zone) (hu : c.changes w u)
    (h : (q.place client name zone).Goes c number u deeds result) : Journey c number q w u deeds result := by
  refine Journey.of_bind h (Flow.keeps_check trivial) (fun before refusal hcheck => ?_)
    fun before after _ hcheck hrest => ?_
  · exact ⟨_, .shallow (hzone.of_changes hcheck.changes) (hcheck.observes (Flow.observes_check _)).symm⟩
  have hdepth := (hcheck.observes (Flow.observes_check _)).symm
  have hzone := hzone.of_changes hcheck.changes
  have hu := c.trans hu hcheck.changes
  refine Journey.of_advance_bind hrest fun _ _ hadvance hrest => ?_
  have hzone := hzone.of_changes hadvance.changes
  have hu := c.trans hu hadvance.changes
  refine Journey.of_bind hrest (looks_classify name zone _) (fun before refusal hclassify => ?_)
    fun before after placement hclassify hrest => ?_
  · have hzone := hzone.of_changes hclassify.changes
    rcases hclassify.observes (observes_classify name zone q.context.now _) with
      ⟨fault, rfl, houtage⟩ | ⟨z, rfl, rfl, hnone⟩
    · exact ⟨_, .domainOutage hzone hdepth houtage⟩
    · exact ⟨_, .orphan hzone hdepth (hnone.widen hu (c.refl _))⟩
  have hplaced := hclassify.observes (observes_classify name zone q.context.now _)
  have hsite : Sited c q w _ client name zone placement :=
    ⟨hzone.of_changes hclassify.changes, hdepth, Placed.widen hplaced hu (c.refl _)⟩
  exact journey_settle hsite (c.trans hu hclassify.changes) hrest

theorem journey_stages (hu : c.changes w u) (h : q.stages.Goes c number u deeds result) :
    Journey c number q w u deeds result := by
  cases hclient : q.context.client with
  | none =>
      have hthrow : q.stages = throw .notLoggedIn := by rw [Request.stages, hclient]
      rw [hthrow] at h
      obtain ⟨hturns, rfl⟩ := h.keeps (Flow.keeps_throw (P := fun op => op.engages = false)
        (Q := fun result => result = .error .notLoggedIn) rfl)
      exact .objected hturns (.anonymous hclient) h.changes
  | some client =>
      have hstages : q.stages = Flow.check (HostName.parse q.command.hostName) >>= fun name =>
          longestManagedZone name >>= q.place client name := by
        rw [Request.stages, hclient]
      rw [hstages] at h
      refine Journey.of_bind h (Flow.keeps_check trivial) (fun before refusal hcheck => ?_)
        fun before after name hcheck hrest => ?_
      · exact ⟨_, .misnamed hclient (hcheck.observes (Flow.observes_check _)).symm⟩
      have hname := (hcheck.observes (Flow.observes_check _)).symm
      have hu := c.trans hu hcheck.changes
      refine Journey.of_bind hrest (looks_firstManagedZone _) (fun before refusal hscan => ?_)
        fun before after zone hscan hrest => ?_
      · obtain ⟨fault, rfl, houtage⟩ := hscan.observes (observes_firstManagedZone name.properSuffixes _)
        exact ⟨_, .zoneOutage hclient hname houtage⟩
      have hscanned := hscan.observes (observes_firstManagedZone name.properSuffixes _)
      exact journey_place ⟨hclient, hname, Scanned.widen hscanned hu (c.refl _)⟩ (c.trans hu hscan.changes) hrest

/-- A request that has gone through some deeds to a result has made a journey. -/
theorem journey_work (h : q.work.Takes number deeds (.done result)) (hw : Unbroken w deeds)
    (hborne : c.Bears number w deeds) : Journey c number q w w deeds result := by
  rw [Request.work_eq] at h
  obtain ⟨asides, u, surroundings, rest, rfl, hasides, hrest⟩ := h.exists_turn
  obtain ⟨⟨reached, trail⟩, before, after, rfl, hbefore, hafter⟩ := hrest.exists_bind
  have hreported : Idle number (asides ++ [.turn number ⟨u, surroundings, .report (.received q.command.hostName
      q.context.correlation)⟩]) := hasides.idle.append (.cons rfl (asides_nil number).idle)
  rw [List.append_cons] at hw hborne ⊢
  obtain ⟨-, hrest⟩ := unbroken_append.1 hw
  obtain ⟨hstages, -⟩ := unbroken_append.1 hrest
  obtain ⟨hfirst, hborne⟩ := Company.bears_append.1 hborne
  obtain ⟨hborne, hborne'⟩ := Company.bears_append.1 hborne
  have hgoes : q.stages.Goes c number _ before reached := ⟨⟨_, trail, hbefore⟩, hstages, hborne⟩
  have hsince := hfirst.changes
  obtain ⟨hreport, rfl⟩ := hafter.keeps (q.keeps_report reached trail)
  have hafter' : Idle number after := fun turn hturn => Op.not_engages_of_looks (hreport turn hturn)
  exact ((journey_stages hsince hgoes).append hafter' hborne'.changes).prepend hreported

end Create

end Bailiwick
