import Bailiwick.Proofs.Create.Audit
import Bailiwick.Proofs.Create.Session
import Bailiwick.Proofs.Create.QueueIndependence
import Bailiwick.Proofs.Create.Superordinate

/-!
What creates tell others. A create that commits is counted once, and the queue is called once where its host is
subordinate to a domain; nothing else is told, and nothing depends on what the queue answers. What the turns of each
request tell is settled by the course of the request; what the turns of a run tell follows request by request.
-/

namespace Bailiwick

section Steps

variable {τ β : Type}

/-- The steps of one request, in order. -/
def ofRequest (number : Nat) (steps : List (Nat × τ)) : List (Nat × τ) := steps.filter fun step => step.1 = number

/-- Steps of requests that do not overlap: all those of one request, then those of the others likewise. -/
inductive Successive : List (Nat × τ) → Prop where
  | nil : Successive []
  | cons {number : Nat} {block rest : List (Nat × τ)} (hblock : ∀ step ∈ block, step.1 = number)
      (hother : ∀ step ∈ rest, step.1 ≠ number) (hrest : Successive rest) : Successive (block ++ rest)

/-- The steps of all requests but one, in order. -/
def ofOthers (number : Nat) (steps : List (Nat × τ)) : List (Nat × τ) :=
  steps.filter fun step => !decide (step.1 = number)

theorem ofRequest_ofOthers (k number : Nat) (steps : List (Nat × τ)) :
    ofRequest k (ofOthers number steps) = if k = number then [] else ofRequest k steps := by
  rw [ofRequest, ofOthers, List.filter_filter]
  split
  · next h =>
      subst h
      exact List.filter_eq_nil_iff.2 fun step _ => by simp
  · next h =>
      refine List.filter_congr fun step _ => ?_
      by_cases hstep : step.1 = k
      · simp [hstep, h]
      · simp [hstep]

variable {steps : List (Nat × τ)} {f g : Nat × τ → List β}

/-- What agrees for every request agrees for the steps of all requests but for its order. -/
theorem perm_flatMap_of_ofRequest
    (h : ∀ number, (ofRequest number steps).flatMap f = (ofRequest number steps).flatMap g) :
    (steps.flatMap f).Perm (steps.flatMap g) := by
  induction hlength : steps.length using Nat.strongRecOn generalizing steps with
  | _ n ih =>
      cases steps with
      | nil => exact List.Perm.refl _
      | cons first rest =>
          -- The steps of the first request are taken out; the others are fewer.
          have hsplit (f : Nat × τ → List β) : ((first :: rest).flatMap f).Perm
              ((ofRequest first.1 (first :: rest)).flatMap f ++ (ofOthers first.1 (first :: rest)).flatMap f) := by
            rw [← List.flatMap_append]
            exact (List.filter_append_perm (fun step => decide (step.1 = first.1)) _).symm.flatMap_right f
          have hfewer : (ofOthers first.1 (first :: rest)).length < n := by
            rw [← hlength, ofOthers, List.filter_cons_of_neg (by simp)]
            exact Nat.lt_succ_of_le (List.length_filter_le _ _)
          have hothers : ((ofOthers first.1 (first :: rest)).flatMap f).Perm
              ((ofOthers first.1 (first :: rest)).flatMap g) := by
            refine ih _ hfewer (fun number => ?_) rfl
            rw [ofRequest_ofOthers]
            split
            · rfl
            · exact h number
          refine (hsplit f).trans (List.Perm.trans ?_ (hsplit g).symm)
          rw [h first.1]
          exact hothers.append_left _

/-- What agrees for every request agrees for requests that do not overlap. -/
theorem Successive.flatMap_eq (hsteps : Successive steps)
    (h : ∀ number, (ofRequest number steps).flatMap f = (ofRequest number steps).flatMap g) :
    steps.flatMap f = steps.flatMap g := by
  induction hsteps with
  | nil => rfl
  | @cons number block rest hblock hother _ ih =>
      have hnone : ofRequest number rest = [] :=
        List.filter_eq_nil_iff.2 fun step hstep => by simpa using hother step hstep
      have hall : ofRequest number block = block :=
        List.filter_eq_self.2 fun step hstep => decide_eq_true (hblock step hstep)
      have hfirst := h number
      rw [ofRequest, List.filter_append, ← ofRequest, ← ofRequest, hall, hnone, List.append_nil] at hfirst
      have hrest (k : Nat) : (ofRequest k rest).flatMap f = (ofRequest k rest).flatMap g := by
        by_cases hk : k = number
        · rw [hk, hnone]
          rfl
        · have hblank : ofRequest k block = [] :=
            List.filter_eq_nil_iff.2 fun step hstep => by simpa [hblock step hstep] using Ne.symm hk
          have hk := h k
          rw [ofRequest, List.filter_append, ← ofRequest, ← ofRequest, hblank, List.nil_append] at hk
          exact hk
      rw [List.flatMap_append, List.flatMap_append, hfirst, ih hrest]

end Steps

namespace Registry

variable {α : Type} {r : Registry α} {moves : List (Move α)}

/-- What quiet turns do not add, the turns of a request add by its effects. -/
theorem flatMap_ofRequest_turns {β : Type} {f : Turn → List β} (hf : ∀ turn, turn.isQuiet = true → f turn = [])
    (number : Nat) :
    ((ofRequest number (r.turns moves)).flatMap fun step => f step.2) = (r.effects moves number).flatMap f := by
  rw [ofRequest, effects]
  induction r.turns moves with
  | nil => rfl
  | cons step rest ih =>
      obtain ⟨k, turn⟩ := step
      rw [List.flatMap_cons, List.flatMap_append, ← ih, List.filter_cons]
      by_cases hk : k = number
      · simp only [hk, decide_true, if_true, List.flatMap_cons]
        congr 1
        cases hquiet : turn.isQuiet with
        | true => rw [Turn.mark_of_isQuiet hquiet, hf turn hquiet]; rfl
        | false => simp [Turn.mark, hquiet]
      · simp [hk]

/-- The turns of a run meet the surroundings that its moves say. -/
theorem turn_mem_of_mem_turns {number : Nat} {turn : Turn} (h : (number, turn) ∈ r.turns moves) :
    Move.turn number turn.surroundings ∈ moves := by
  induction moves generalizing r with
  | nil => cases h
  | cons m moves ih =>
      rcases List.mem_append.1 h with hfirst | hrest
      · cases m with
        | turn k surroundings =>
            rcases r.turn?_cases k surroundings with ⟨-, hidle⟩ | ⟨op, next, hk⟩
            · rw [hidle] at hfirst
              cases hfirst
            · simp only [turn?, hk, Option.toList_some, List.mem_singleton, Prod.mk.injEq] at hfirst
              obtain ⟨rfl, rfl⟩ := hfirst
              exact List.mem_cons_self
        | _ => cases hfirst
      · exact List.mem_cons_of_mem _ (ih hrest)

end Registry

namespace Turn

/-- How a turn is to be counted. -/
def tally (t : Turn) : List String := if t.commits then [Create.activityName] else []

theorem tally_of_not_commits {t : Turn} (h : t.commits = false) : t.tally = [] := by
  rw [tally, h]
  rfl

theorem not_commits_of_isQuiet {t : Turn} (h : t.isQuiet = true) : t.commits = false := by
  refine Bool.eq_false_iff.2 fun hcommits => ?_
  rw [isQuiet_of_commits hcommits] at h
  cases h

theorem refreshes_of_op {t : Turn} {name : HostName} (h : t.op = .enqueueRefresh name) :
    t.refreshes = [name] ∧ t.records = [] := by
  simp only [refreshes, records, h, and_self]

theorem records_of_op {t : Turn} {activity : String} (h : t.op = .recordActivity activity) :
    t.refreshes = [] ∧ t.records = [activity] := by
  simp only [refreshes, records, h, and_self]

/-- A commit tells nobody. -/
theorem silent_of_commits {t : Turn} (h : t.commits = true) : t.refreshes = [] ∧ t.records = [] := by
  obtain ⟨world, surroundings, op⟩ := t
  cases op with
  | commit a => exact ⟨rfl, rfl⟩
  | _ => cases h

end Turn

namespace Create

variable {c : Company} {q : Request} {u w now : World} {turn : Turn} {client : ClientId} {name : HostName}
  {zone : Option String} {placement : Placement} {addresses : List IpAddress} {attempt : Nat} {created : Created}

/-- A committed host is subordinate where it was placed under a domain. -/
theorem Makes.isSubordinate_eq (h : Makes c q u turn client name zone placement addresses attempt created) :
    created.host.isSubordinate = placement.isSubordinate := by
  obtain ⟨-, key, hkey, rfl⟩ := decideOn_eq_ok h.decide_eq
  cases placement with
  | external => rw [← Except.ok.inj hkey]; rfl
  | subordinate domain =>
      obtain ⟨present, -, -, rfl⟩ := superordinateOn_eq_ok hkey
      rfl

theorem Makes.subordinates_eq (h : Makes c q u turn client name zone placement addresses attempt created) :
    turn.subordinates = if placement.isSubordinate then [name] else [] := by
  rw [Turn.subordinates, hosts_eq_of_writes_eq h.writes_eq, ← h.isSubordinate_eq, ← h.name_eq, List.filter_singleton]
  cases created.host.isSubordinate <;> rfl

/-- The turns of a request call the queue with the name of the subordinate host that they store, and count what
they commit. -/
theorem Course.notices {turns : List Turn} {result : Except Refusal Response} {trail : Trail}
    (h : Course c q w zone turns now result trail) :
    turns.flatMap Turn.refreshes = turns.flatMap Turn.subordinates ∧
      turns.flatMap Turn.records = turns.flatMap Turn.tally := by
  cases h with
  | objected _ _ => exact ⟨rfl, rfl⟩
  | failed _ _ hends => cases hends <;> exact ⟨rfl, rfl⟩
  | rehearsed _ _ _ hends =>
      cases hends with
      | rolledBack _ _ _ => exact ⟨rfl, rfl⟩
      | committed _ hmode => cases hmode
  | made hu hpassed hreal hends hfollowed =>
      obtain ⟨turn, number, rfl, hmakes, -⟩ := makes_of_ends hpassed hreal hends
      obtain ⟨hrefreshes, hrecords⟩ := Turn.silent_of_commits hmakes.commits
      have htally : turn.tally = [activityName] := if_pos hmakes.commits
      have hsubordinates := hmakes.subordinates_eq
      have hnone (other : Turn) (hother : other ∈ _) : other.subordinates = [] ∧ other.tally = [] :=
        have hcommits := hfollowed.commits_eq_false other hother
        ⟨Turn.subordinates_of_not_commits hcommits, Turn.tally_of_not_commits hcommits⟩
      cases hfollowed with
      | @external record _ hrecord _ =>
          obtain ⟨hlast, hlast'⟩ := hnone record List.mem_cons_self
          obtain ⟨hcall, hcount⟩ := Turn.records_of_op hrecord.op
          simp only [List.cons_append, List.nil_append, List.flatMap_cons, List.flatMap_nil, hrefreshes, hrecords,
            htally, hsubordinates, hlast, hlast', hcall, hcount, and_true]
          rfl
      | @subordinate _ enqueue record _ henqueue hrecord _ =>
          obtain ⟨hnext, hnext'⟩ := hnone enqueue List.mem_cons_self
          obtain ⟨hlast, hlast'⟩ := hnone record (List.mem_cons_of_mem _ List.mem_cons_self)
          obtain ⟨hcall, hcount⟩ := Turn.refreshes_of_op henqueue.op
          obtain ⟨hcall', hcount'⟩ := Turn.records_of_op hrecord.op
          simp only [List.cons_append, List.nil_append, List.flatMap_cons, List.flatMap_nil, hrefreshes, hrecords,
            htally, hsubordinates, hnext, hnext', hlast, hlast', hcall, hcount, hcall', hcount', and_true]
          rfl

/-- What the steps of creates that have all returned tell. -/
structure Told (steps : List (Nat × Turn)) : Prop where
  calls : ∀ number, ((ofRequest number steps).flatMap fun step => step.2.refreshes)
    = (ofRequest number steps).flatMap fun step => step.2.subordinates
  records : ∀ number, ((ofRequest number steps).flatMap fun step => step.2.records)
    = (ofRequest number steps).flatMap fun step => step.2.tally
  hosts : ∀ number turn, (number, turn) ∈ steps → turn.commits = true → ∃ host, turn.hosts = [host]
  once : ((steps.filter fun step => step.2.commits).map Prod.fst).Nodup

theorem told_of_returned {w : World} {acts : List Act}
    (h : ∀ p ∈ ((opened w).play (moves acts)).requests, p.value?.isSome = true) :
    Told ((opened w).turns (moves acts)) := by
  have hnotices (number : Nat) :
      ((opened w).effects (moves acts) number).flatMap Turn.refreshes
          = ((opened w).effects (moves acts) number).flatMap Turn.subordinates ∧
        ((opened w).effects (moves acts) number).flatMap Turn.records
          = ((opened w).effects (moves acts) number).flatMap Turn.tally := by
    cases hq : (requested acts)[number]? with
    | none =>
        have hlength := List.getElem?_eq_none_iff.1 hq
        rw [Registry.effects_eq_nil fun turn hmem => ?_]
        · exact ⟨rfl, rfl⟩
        · have hlt : number < 0 + (requested acts).length := lt_of_mem_turns hmem
          omega
    | some q =>
        obtain ⟨p, u, hp, -, hensures⟩ :=
          ensures_opened Company.anyone_grows (anyone_admits acts) (w := w) hq
        obtain ⟨result, hresult⟩ := Option.isSome_iff_exists.1 (h p (List.mem_of_getElem? hp))
        rw [Work.value?_eq_some.1 hresult] at hensures
        obtain ⟨v, trail, ⟨zone, hcourse⟩, -⟩ := hensures _ (Company.anyone.refl _)
        rw [List.append_nil] at hcourse
        exact hcourse.notices
  refine ⟨fun number => ?_, fun number => ?_, fun number turn hmem hcommits => ?_, ?_⟩
  · rw [Registry.flatMap_ofRequest_turns (fun _ => Turn.refreshes_of_isQuiet), (hnotices number).1,
      Registry.flatMap_ofRequest_turns fun turn hquiet =>
        Turn.subordinates_of_not_commits (Turn.not_commits_of_isQuiet hquiet)]
  · rw [Registry.flatMap_ofRequest_turns (fun _ => Turn.records_of_isQuiet), (hnotices number).2,
      Registry.flatMap_ofRequest_turns fun turn hquiet =>
        Turn.tally_of_not_commits (Turn.not_commits_of_isQuiet hquiet)]
  · obtain ⟨q, created, ids, -, hleaves, -⟩ := exists_leaves (Registry.mem_commits.2 ⟨hmem, hcommits⟩)
    exact ⟨created.host, hleaves.hosts⟩
  · exact List.pairwise_map.2 (nodup_commits w acts)

theorem Told.likewise {steps steps' : List (Nat × Turn)} (h : Told steps') (hlike : Likewise steps steps') :
    Told steps := by
  have hrequest (number : Nat) : Likewise (ofRequest number steps) (ofRequest number steps') :=
    hlike.filter _ rfl
  refine ⟨fun number => ?_, fun number => ?_, fun number turn hmem hcommits => ?_, ?_⟩
  · rw [(hrequest number).flatMap_eq _ rfl, h.calls, (hrequest number).flatMap_eq _ rfl]
  · rw [(hrequest number).flatMap_eq _ rfl, h.records, (hrequest number).flatMap_eq _ rfl]
  · obtain ⟨turn', hmem', hbare⟩ := hlike.exists_mem hmem
    have hcommits' : turn'.bare.commits = true := by
      rw [hbare]
      exact hcommits
    obtain ⟨host, hhost⟩ := h.hosts number turn' hmem' hcommits'
    have hhost' : turn'.bare.hosts = [host] := hhost
    rw [hbare] at hhost'
    exact ⟨host, hhost'⟩
  · rw [(hlike.filter _ rfl).fst_eq]
    exact h.once

/-- Each commit is counted once. -/
theorem flatMap_tally (steps : List (Nat × Turn)) :
    (steps.flatMap fun step => step.2.tally)
      = List.replicate (steps.filter fun step => step.2.commits).length activityName := by
  induction steps with
  | nil => rfl
  | cons step rest ih =>
      rw [List.flatMap_cons, List.filter_cons, ih, Turn.tally]
      cases step.2.commits <;> rfl

/-- The names with which a request calls the queue. -/
def callsOf (number : Nat) (steps : List (Nat × Turn)) : List HostName :=
  (ofRequest number steps).flatMap fun step => step.2.refreshes

namespace Told

variable {steps : List (Nat × Turn)} {number : Nat}

theorem records_eq (h : Told steps) :
    (steps.flatMap fun step => step.2.records)
      = List.replicate (steps.filter fun step => step.2.commits).length activityName := by
  have hperm := perm_flatMap_of_ofRequest h.records
  rw [flatMap_tally] at hperm
  exact List.perm_replicate.1 hperm

/-- A request calls the queue for what it commits. -/
theorem callsOf_eq (h : Told steps) (number : Nat) :
    callsOf number steps = (ofRequest number (steps.filter fun step => step.2.commits)).flatMap fun step =>
      step.2.subordinates := by
  have hcomm : ofRequest number (steps.filter fun step => step.2.commits)
      = (ofRequest number steps).filter fun step => step.2.commits := by
    rw [ofRequest, ofRequest, List.filter_filter, List.filter_filter]
    exact List.filter_congr fun _ _ => Bool.and_comm _ _
  rw [callsOf, h.calls, hcomm, Turn.flatMap_commits fun _ => Turn.subordinates_of_not_commits]

theorem callsOf_commit (h : Told steps) {turn : Turn}
    (hmem : (number, turn) ∈ steps.filter fun step => step.2.commits) :
    ∃ host, turn.hosts = [host] ∧ callsOf number steps = if host.isSubordinate then [host.name] else [] := by
  obtain ⟨hstep, hcommits⟩ := List.mem_filter.1 hmem
  obtain ⟨host, hhost⟩ := h.hosts number turn hstep hcommits
  refine ⟨host, hhost, ?_⟩
  rw [h.callsOf_eq, ofRequest, Table.filter_eq_singleton_of_nodup h.once hmem, List.flatMap_singleton,
    Turn.subordinates, hhost, List.filter_singleton]
  cases host.isSubordinate <;> rfl

theorem callsOf_eq_nil (h : Told steps)
    (hnumber : number ∉ (steps.filter fun step => step.2.commits).map Prod.fst) : callsOf number steps = [] := by
  have hnone : ofRequest number (steps.filter fun step => step.2.commits) = [] := by
    refine List.filter_eq_nil_iff.2 fun step hstep hsame => hnumber ?_
    rw [← of_decide_eq_true hsame]
    exact List.mem_map_of_mem hstep
  rw [h.callsOf_eq, hnone]
  rfl

end Told

/-- What happens in two runs that differ at most in how the queue answers. -/
inductive Happening.Agrees : Happening → Happening → Prop where
  | act {act act' : Act} (h : act.Agrees act') : Agrees (.act act) (.act act')
  | drain : Agrees .drain .drain

theorem forall₂_acts {happenings others : List Happening} (h : List.Forall₂ Happening.Agrees happenings others) :
    List.Forall₂ Act.Agrees (acts happenings) (acts others) := by
  induction h with
  | nil => exact .nil
  | cons hfirst _ ih =>
      cases hfirst with
      | act hact => exact .cons hact ih
      | drain => exact ih

/-- No call of a run is rejected by the queue or late. -/
def Accepting (happenings : List Happening) : Prop :=
  ∀ number surroundings, .act (.turn number surroundings) ∈ happenings → surroundings.delivery = .accepted

/-- An accepting queue takes every name that it is called with. -/
theorem Accepting.queued_eq {w : World} {happenings : List Happening} (h : Accepting happenings) :
    (((opened w).turns (moves (acts happenings))).flatMap fun step => step.2.queued)
      = ((opened w).turns (moves (acts happenings))).flatMap fun step => step.2.refreshes := by
  refine List.flatMap_congr fun step hstep => ?_
  obtain ⟨act, hact, hmove⟩ := List.mem_map.1 (Registry.turn_mem_of_mem_turns hstep)
  obtain ⟨happening, hmem, hsome⟩ := List.mem_filterMap.1 hact
  cases happening with
  | drain => cases hsome
  | act act' =>
      obtain rfl := Option.some.inj hsome
      cases act' with
      | turn number surroundings =>
          cases hmove
          rw [Turn.queued, h _ _ hmem]
      | edit e => cases hmove
      | submit q => cases hmove

/-- Every request of a session has returned. -/
def Session.returned (s : Session) : Prop := ∀ p ∈ s.registry.requests, p.value?.isSome = true

instance (s : Session) : Decidable s.returned := inferInstanceAs (Decidable (∀ p ∈ s.registry.requests, _))

/-- In every run of creates, edits, turns and drains in any order, whatever the queue answers, after which every
request has returned: the activity of a create is recorded once for each commit and no other. The queue was called
once, with the name of its host, by each request that has committed a subordinate host, and by no other. Other
answers of the queue change neither the store nor what the requests return. If the queue accepts every call, the
names that were drained and those that wait are the names of the committed subordinate hosts, and in the order of
the commits if the requests do not overlap. -/
theorem createHost_notifies {w : World} {happenings : List Happening}
    (hreturned : ((session w).play happenings).returned) :
    let s := (session w).play happenings
    let turns := (session w).turns happenings
    let commits := (session w).commits happenings
    s.registry.world.activity = w.activity ++ List.replicate commits.length activityName ∧
      (commits.map Prod.fst).Nodup ∧
      (∀ number turn, (number, turn) ∈ commits → ∃ host, turn.hosts = [host] ∧
        callsOf number turns = if host.isSubordinate then [host.name] else []) ∧
      (∀ number, number ∉ commits.map Prod.fst → callsOf number turns = []) ∧
      (∀ others, List.Forall₂ Happening.Agrees happenings others →
        let s' := (session w).play others
        s'.registry.world.store = s.registry.world.store ∧
          s'.registry.requests.map Work.value? = s.registry.requests.map Work.value?) ∧
      (Accepting happenings →
        let taken := s.drained ++ s.registry.world.queue
        let committed := commits.flatMap fun commit => commit.2.subordinates
        taken.Perm (w.queue ++ committed) ∧ (Successive turns → taken = w.queue ++ committed)) := by
  intro s turns commits
  obtain ⟨hshadows, hlike⟩ := shadows_session w happenings
  have htold : Told turns := by
    refine (told_of_returned ?_).likewise hlike
    rw [← hshadows.requests_eq]
    exact hreturned
  refine ⟨?_, htold.once, fun number turn => htold.callsOf_commit, fun number => htold.callsOf_eq_nil, ?_, ?_⟩
  · have hactivity := (opened w).activity_play (moves (acts happenings))
    rw [← hshadows.activity_eq, ← hlike.flatMap_eq _ rfl] at hactivity
    exact hactivity.trans (congrArg (w.activity ++ ·) htold.records_eq)
  · intro others hothers s'
    have hagree := agrees_play w (forall₂_acts hothers)
    obtain ⟨hshadows', -⟩ := shadows_session w others
    rw [hshadows'.store_eq, hshadows.store_eq, hshadows'.requests_eq, hshadows.requests_eq]
    exact ⟨hagree.store.symm, hagree.values_eq.symm⟩
  · intro haccepting taken committed
    have htaken : taken = w.queue ++ turns.flatMap fun step => step.2.refreshes := by
      have hqueue := (opened w).queue_play (moves (acts happenings))
      rw [← hshadows.queue_eq, haccepting.queued_eq, ← hlike.flatMap_eq _ rfl] at hqueue
      exact hqueue
    have hcommitted : committed = turns.flatMap fun step => step.2.subordinates :=
      Turn.flatMap_commits (fun _ => Turn.subordinates_of_not_commits) turns
    rw [htaken, hcommitted]
    refine ⟨(perm_flatMap_of_ofRequest htold.calls).append_left _, fun hsuccessive => ?_⟩
    rw [hsuccessive.flatMap_eq htold.calls]

/-- Two clients get their hosts, and the queue is drained between the calls for them. -/
def relayed : List Happening := (crowded.take 45).map .act ++ [.drain] ++ (crowded.drop 45).map .act

theorem calm_of_mem_rounds {count number : Nat} {surroundings : Surroundings}
    (h : .turn number surroundings ∈ rounds count) : surroundings = .calm := by
  obtain ⟨round, hround, hmem⟩ := List.mem_flatten.1 h
  rw [List.eq_of_mem_replicate hround] at hmem
  simp only [List.mem_cons, Act.turn.injEq, List.not_mem_nil, or_false] at hmem
  exact hmem.elim And.right And.right

theorem accepting_relayed : Accepting relayed := by
  intro number surroundings h
  have hmem : Act.turn number surroundings ∈ crowded := by
    simp only [relayed, List.mem_append, List.mem_map, Happening.act.injEq, exists_eq_right, List.mem_singleton,
      reduceCtorEq, or_false] at h
    exact h.elim List.mem_of_mem_take List.mem_of_mem_drop
  simp only [crowded, List.mem_append, List.mem_cons, reduceCtorEq, List.not_mem_nil, or_false, false_or] at hmem
  rw [hmem.elim calm_of_mem_rounds calm_of_mem_rounds]
  rfl

theorem createHost_notifies_relayed :
    let s := (session { store := delegated }).play relayed
    s.returned ∧ s.registry.world.activity = [activityName, activityName] ∧ s.drained.length = 1 ∧
      ((s.drained ++ s.registry.world.queue).map HostName.text).Perm ["ns1.example.tld", "ns2.example.tld"] := by
  have hreturned : ((session { store := delegated }).play relayed).returned := by decide +kernel
  have hcommits : ((session { store := delegated }).commits relayed).length = 2 := by decide +kernel
  have hnames : (((session { store := delegated }).commits relayed).flatMap fun commit =>
      commit.2.subordinates).map HostName.text = ["ns1.example.tld", "ns2.example.tld"] := by
    decide +kernel
  have hdrained : ((session { store := delegated }).play relayed).drained.length = 1 := by decide +kernel
  obtain ⟨hactivity, -, -, -, -, hqueue⟩ := createHost_notifies hreturned
  obtain ⟨hperm, -⟩ := hqueue accepting_relayed
  have hperm := hperm.map HostName.text
  rw [show ({ store := delegated } : World).queue = [] from rfl, List.nil_append, hnames] at hperm
  rw [hcommits] at hactivity
  exact ⟨hreturned, hactivity, hdrained, hperm⟩

end Create

end Bailiwick
