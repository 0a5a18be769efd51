import Bailiwick.Proofs.Create.Uniqueness
import Bailiwick.Proofs.Create.Verdict

/-!
Whole creates are serializable when the managed zones do not change. What changed the store in a run is replayed
in order, the edits as they were and each committed create as one complete request that nobody disturbs. The
look-ups that a request made before its transaction may have met older stores; what its commit decided again on
the store that it met is what the whole request comes to on that store.
-/

namespace Bailiwick

namespace Store

theorem isManaged_applyAll (s : Store) (writes : List Write) (zone : String) :
    (s.applyAll writes).isManaged zone = s.isManaged zone := by
  rw [isManaged, isManaged, s.zones_applyAll writes]

end Store

/-- Any number of others who use the operations of a store but add no managed zone, in any surroundings. -/
def Company.zoneless : Company where
  changes v w := v.store.Later w.store ∧ ∀ zone, w.store.isManaged zone = v.store.isManaged zone
  meets _ := True
  alike h := by
    rw [h.store]
    exact ⟨.refl _, fun _ => rfl⟩
  trans huv hvw := ⟨huv.1.trans hvw.1, fun zone => (hvw.2 zone).trans (huv.2 zone)⟩

theorem Company.zoneless_grows : Company.zoneless.Grows := fun h => h.1

theorem World.isManaged_perform (surroundings : Surroundings) (w : World) (op : Op) (zone : String) :
    (w.perform surroundings op).1.store.isManaged zone = w.store.isManaged zone := by
  cases hcommits : Turn.commits ⟨w, surroundings, op⟩ with
  | false => exact congrArg (Store.isManaged · zone) (Turn.store_after_of_not_commits hcommits)
  | true =>
      cases op with
      | commit a =>
          rw [(w.perform_commit_of_isCurrent surroundings hcommits).2.1]
          exact w.store.isManaged_applyAll a.writes zone
      | _ => cases hcommits

/-- What changed the store in a run. -/
inductive Step where
  | edit (e : Store.Edit)
  /-- The commit of the request with a number. -/
  | commit (number : Nat)

namespace Registry

variable {α : Type}

def step? (r : Registry α) : Move α → Option Step
  | .edit e => some (.edit e)
  | m => (r.commit? m).map fun commit => .commit commit.1

/-- What changed the store in a run, in order. -/
def steps (r : Registry α) : List (Move α) → List Step
  | [] => []
  | m :: moves => (r.step? m).toList ++ (r.move m).steps moves

end Registry

namespace Create

/-- A request with the identifiers of one attempt for every attempt. -/
def Request.pinned (q : Request) (attempt : Nat) : Request := { q with ids := fun _ => q.ids attempt }

/-- Replays steps, each commit as one complete request, and collects what the requests answer. -/
def replay (surroundings : Surroundings) (request : Nat → Option Request) (w : World) :
    List Step → World × List (Nat × Except Refusal Response)
  | [] => (w, [])
  | .edit e :: rest => replay surroundings request (w.edit e) rest
  | .commit number :: rest =>
    match request number with
    | none => replay surroundings request w rest
    | some q =>
      let (w, answer) := q.work.run surroundings w
      let (w, answers) := replay surroundings request w rest
      (w, (number, answer) :: answers)

variable {q : Request} {u now : World} {turn : Turn} {client : ClientId} {name : HostName} {zone : Option String}
  {placement : Placement} {addresses : List IpAddress} {attempt : Nat} {created : Created}

/-- On the store that a commit meets the whole request comes to what the commit has written. The placement was
found on an older store, but its zone has not changed and the commit has found the domain of the same name. -/
theorem Makes.verdict_eq (h : Makes Company.zoneless q u turn client name zone placement addresses attempt created)
    (hu : u.store.Orderly) : (q.pinned attempt).verdict turn.world.store = .ok created := by
  obtain ⟨moment, hmoment, hlast, -⟩ := h.free
  have hturn : turn.world.store.Orderly := (hmoment.1.trans hlast.1).orderly hu
  obtain ⟨hfree, key, hkey, -⟩ := decideOn_eq_ok h.decide_eq
  have hzone : name.properSuffixes.find? turn.world.store.isManaged = zone := by
    apply h.scanned.eq_find?
    intro z b hmet
    obtain ⟨then', -, hsince, hmanaged⟩ := hmet
    rw [hsince.2, hmanaged]
  have hdecide := h.decide_eq
  have hsite := h.placed
  have hresolve := h.resolve_eq
  cases hsite with
  | external =>
      rw [verdict_eq_decideOn (q := q.pinned attempt) h.client_eq h.parse_eq hzone h.depth_eq rfl hresolve hfree]
      exact hdecide
  | @subordinate z domain hmet =>
      obtain ⟨then', hthen, -, hfound⟩ := hmet
      have hname : domain.name = superordinateName name z := (hthen.1.orderly hu).name_of_activeDomain hfound
      simp only [Placement.superordinate?, Option.map_some, hname] at hkey hdecide
      obtain ⟨present, hpresent, -⟩ := superordinateOn_eq_ok hkey
      have hplace : placeOn turn.world.store name (some z) q.context.now = .ok (.subordinate present) := by
        rw [placeOn, hpresent]
      rw [verdict_eq_decideOn (q := q.pinned attempt) h.client_eq h.parse_eq hzone h.depth_eq hplace hresolve
        hfree]
      simp only [Placement.superordinate?, Option.map_some, hturn.name_of_activeDomain hpresent]
      exact hdecide

/-- A turn commits what a whole request comes to on the store that the turn meets. -/
structure Repeats (q : Request) (turn : Turn) (response : Response) : Prop where
  answer_eq : q.answerOn turn.world.store = .ok response
  leave_eq : q.leave turn.world.store = turn.after.store

theorem Makes.repeats (h : Makes Company.zoneless q u turn client name zone placement addresses attempt created)
    (hu : u.store.Orderly) : Repeats (q.pinned attempt) turn (.ofCreated created false) := by
  have hreal : (q.pinned attempt).context.dryRun = false := h.real
  constructor
  · rw [Request.answerOn, h.verdict_eq hu, hreal]
    rfl
  · rw [Request.leave, h.verdict_eq hu, hreal, h.store_after]
    rfl

variable {surroundings : Surroundings} {request : Nat → Option Request}

theorem replay_commit {number : Nat} {q : Request} (hq : request number = some q) (v : World) (rest : List Step) :
    replay surroundings request v (.commit number :: rest)
      = ((replay surroundings request (q.work.run surroundings v).1 rest).1,
        (number, (q.work.run surroundings v).2)
          :: (replay surroundings request (q.work.run surroundings v).1 rest).2) := by
  simp only [replay, hq]

/-- A replay of repeatable commits leaves the store of the run, with the commits answered in order. -/
theorem replay_steps (hreach : ∀ call, surroundings.outage call = none) {r : Registry (Except Refusal Response)}
    {moves : List (Move (Except Refusal Response))}
    (h : ∀ number turn, (number, turn) ∈ r.commits moves →
      ∃ q response, request number = some q ∧ Repeats q turn response)
    {v : World} (hv : v.store = r.world.store) :
    (replay surroundings request v (r.steps moves)).1.store = (r.play moves).world.store ∧
      (replay surroundings request v (r.steps moves)).2.map Prod.fst = (r.commits moves).map Prod.fst ∧
      ∀ number answer, (number, answer) ∈ (replay surroundings request v (r.steps moves)).2 →
        ∃ turn q, (number, turn) ∈ r.commits moves ∧ request number = some q ∧
          answer = q.answerOn turn.world.store := by
  induction moves generalizing r v with
  | nil => exact ⟨hv, rfl, nofun⟩
  | cons m moves ih =>
      rw [Registry.commits_cons] at h ⊢
      have hrest (number : Nat) (turn : Turn) (hmem : (number, turn) ∈ (r.move m).commits moves) :=
        h number turn (List.mem_append_right _ hmem)
      cases m with
      | edit e =>
          have hstore : (v.edit e).store = (r.move (.edit e)).world.store := congrArg (Store.edit · e) hv
          exact ih hrest hstore
      | submit work => exact ih hrest (r := r.move (.submit work)) hv
      | turn k surroundings' =>
          have hsteps : r.steps (.turn k surroundings' :: moves)
              = ((r.commit? (.turn k surroundings')).map fun commit => Step.commit commit.1).toList
                  ++ (r.move (.turn k surroundings')).steps moves := rfl
          rw [hsteps]
          rcases r.commit?_cases k surroundings' with ⟨hnone, hstay⟩ | ⟨turn, hcommit, hmet, hleft⟩
          · rw [hnone]
            exact ih hrest (hv.trans hstay.symm)
          · rw [hcommit] at h ⊢
            obtain ⟨q, response, hq, hrepeats⟩ := h k turn List.mem_cons_self
            obtain ⟨hanswer, hstore⟩ := run_work hreach q v
            rw [hv, ← hmet] at hanswer hstore
            rw [hrepeats.leave_eq, hleft] at hstore
            obtain ⟨hend, hnumbers, hanswers⟩ := ih hrest hstore
            simp only [Option.map_some, Option.toList_some, List.singleton_append, replay_commit hq, List.map_cons]
            refine ⟨hend, congrArg (k :: ·) hnumbers, ?_⟩
            intro number answer hmem
            rcases List.mem_cons.1 hmem with hfirst | hlater
            · obtain ⟨rfl, rfl⟩ := Prod.mk.inj hfirst
              exact ⟨turn, q, List.mem_cons_self, hq, hanswer⟩
            · obtain ⟨other, q', hother, hq', hsame⟩ := hanswers number answer hlater
              exact ⟨other, q', List.mem_cons_of_mem _ hother, hq', hsame⟩

theorem zoneless_admits {acts : List Act} (h : ∀ zone, Act.edit (.addZone zone) ∉ acts) :
    ∀ act ∈ acts, Company.zoneless.Admits act.move := by
  intro act hact
  cases act with
  | submit q => trivial
  | turn number surroundings =>
      exact ⟨trivial, fun w op => ⟨w.later_perform surroundings op, w.isManaged_perform surroundings op⟩⟩
  | edit e =>
      intro w
      refine ⟨w.store.later_edit e, ?_⟩
      intro zone
      cases e with
      | addZone zone' => exact absurd hact (h zone')
      | putDomain domain => rfl
      | putHost host => rfl

/-- A request is repeated with the identifiers of one of its attempts wherever it commits, and answers what it
answers in the run. -/
theorem exists_attempt {w : World} (hw : w.store.Orderly) {acts : List Act}
    (hacts : ∀ act ∈ acts, Company.zoneless.Admits act.move) (number : Nat) :
    ∃ attempt, ∀ turn, (number, turn) ∈ (opened w).commits (moves acts) →
      ∃ q response, (requested acts)[number]? = some q ∧ q.context.dryRun = false ∧
        Repeats (q.pinned attempt) turn response ∧
        ∀ result, ((opened w).play (moves acts)).requests[number]? = some (.done result) →
          result = .ok response := by
  by_cases hcommits : ∃ turn, (number, turn) ∈ (opened w).commits (moves acts)
  · obtain ⟨turn, hturn⟩ := hcommits
    obtain ⟨q, u, client, name, zone, placement, addresses, attempt, created, hq, hu, hmakes, honly, hresult⟩ :=
      makes_of_mem_commits Company.zoneless_grows ⟨.calm, trivial⟩ hacts hturn
    refine ⟨attempt, ?_⟩
    intro other hother
    obtain rfl := honly other hother
    exact ⟨q, _, hq, hmakes.real, hmakes.repeats (hu.1.orderly hw), hresult⟩
  · exact ⟨0, fun turn hturn => absurd ⟨turn, hturn⟩ hcommits⟩

/-- In a run without new zones the edits and the commits, replayed in their order as whole requests that nobody
disturbs, each with the identifiers of the attempt that committed, lead to the store of the run. Every replayed
create succeeds, and where the original has returned it has returned the same. The commits are those of the
creates that succeeded and were no dry runs, each once. -/
theorem createHost_serializable {w : World} (hbuilt : w.store.Built) {acts : List Act}
    (hzones : ∀ zone, Act.edit (.addZone zone) ∉ acts) {surroundings : Surroundings}
    (hreach : ∀ call, surroundings.outage call = none) :
    ∃ attempt : Nat → Nat,
      let r := opened w
      let final := r.play (moves acts)
      let request := fun number => (requested acts)[number]?.map fun q => q.pinned (attempt number)
      let replayed := replay surroundings request w (r.steps (moves acts))
      let committed := (r.commits (moves acts)).map Prod.fst
      replayed.1.store = final.world.store ∧ replayed.2.map Prod.fst = committed ∧ committed.Nodup ∧
        (∀ number answer, (number, answer) ∈ replayed.2 → (∃ response, answer = .ok response) ∧
          ∀ result, final.requests[number]? = some (.done result) → result = answer) ∧
        (∀ number ∈ committed, ∃ q, (requested acts)[number]? = some q ∧ q.context.dryRun = false) ∧
        ∀ number q response, (requested acts)[number]? = some q → q.context.dryRun = false →
          final.requests[number]? = some (.done (.ok response)) → number ∈ committed := by
  have hacts := zoneless_admits hzones
  obtain ⟨attempt, hattempt⟩ := Classical.axiomOfChoice (exists_attempt hbuilt.orderly hacts)
  refine ⟨attempt, ?_⟩
  intro r final request replayed committed
  have hrequest {number : Nat} {q : Request} (hq : (requested acts)[number]? = some q) :
      request number = some (q.pinned (attempt number)) := by
    simp only [request, hq, Option.map_some]
  have hrepeats (number : Nat) (turn : Turn) (hmem : (number, turn) ∈ r.commits (moves acts)) :
      ∃ q response, request number = some q ∧ Repeats q turn response := by
    obtain ⟨q, response, hq, -, hrepeat, -⟩ := hattempt number turn hmem
    exact ⟨_, response, hrequest hq, hrepeat⟩
  obtain ⟨hend, hnumbers, hanswers⟩ := replay_steps hreach (r := r) hrepeats (v := w) rfl
  refine ⟨hend, hnumbers, ?_, ?_, ?_, ?_⟩
  · refine List.pairwise_map.2 ((pairwise_commits w acts).imp_of_mem ?_)
    rintro ⟨number, turn⟩ ⟨number', turn'⟩ hearlier - hnames rfl
    obtain ⟨q, response, hq, -⟩ := hattempt number turn hearlier
    exact hnames q q hq hq rfl
  · intro number answer hmem
    obtain ⟨turn, q', hturn, hq', hanswer⟩ := hanswers number answer hmem
    obtain ⟨q, response, hq, -, hrepeat, hresult⟩ := hattempt number turn hturn
    obtain rfl := Option.some.inj (hq'.symm.trans (hrequest hq))
    rw [hanswer, hrepeat.answer_eq]
    exact ⟨⟨response, rfl⟩, hresult⟩
  · intro number hmem
    obtain ⟨⟨_, turn⟩, hturn, rfl⟩ := List.mem_map.1 hmem
    obtain ⟨q, response, hq, hreal, -⟩ := hattempt _ turn hturn
    exact ⟨q, hq, hreal⟩
  · intro number q response hq hreal hdone
    obtain ⟨turn, hturn⟩ := exists_commit_of_done Company.zoneless_grows hacts hq hreal hdone
    exact List.mem_map.2 ⟨(number, turn), hturn, rfl⟩

def rounds (count : Nat) : List Act := (List.replicate count [Act.turn 0 .calm, Act.turn 1 .calm]).flatten

/-- Two clients ask for one host, and its domain is put again before either of them commits. -/
def racing : List Act :=
  [.submit (glued ⟨"TheRegistrar"⟩ [⟨.v4, "192.0.2.1"⟩]), .submit (glued ⟨"NewRegistrar"⟩ [⟨.v4, "192.0.2.2"⟩])]
    ++ rounds 12
    ++ [.edit (.putDomain (.new ⟨.ofNat 7⟩ "example.tld" ⟨"NewRegistrar"⟩ .epoch))]
    ++ rounds 14

theorem createHost_serializable_racing :
    delegated.Built ∧ (∀ zone, Act.edit (.addZone zone) ∉ racing) ∧
      (∀ call, Surroundings.calm.outage call = none) ∧
      ((opened { store := delegated }).commits (moves racing)).map Prod.fst = [0] ∧
      ∃ attempt : Nat → Nat,
        let request := fun number => (requested racing)[number]?.map fun q => q.pinned (attempt number)
        let steps := (opened { store := delegated }).steps (moves racing)
        let replayed := replay .calm request { store := delegated } steps
        replayed.1.store = ((opened { store := delegated }).play (moves racing)).world.store ∧
          replayed.2.map Prod.fst = [0] := by
  have hzones : ∀ zone, Act.edit (.addZone zone) ∉ racing := by
    intro zone h
    simp [racing, rounds] at h
  have hcommitted : ((opened { store := delegated }).commits (moves racing)).map Prod.fst = [0] := by
    decide +kernel
  have hreach : ∀ call, Surroundings.calm.outage call = none := fun _ => rfl
  obtain ⟨attempt, hend, hnumbers, -⟩ :=
    createHost_serializable (w := { store := delegated }) built_delegated hzones hreach
  exact ⟨built_delegated, hzones, hreach, hcommitted, attempt, hend, hnumbers.trans hcommitted⟩

end Create

end Bailiwick
