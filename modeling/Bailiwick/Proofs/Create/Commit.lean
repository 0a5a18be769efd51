import Bailiwick.Proofs.Create.Course

/-!
The commit of a create. A request changes the store in one turn at most. What that turn writes was decided on
the very store that it meets, and the request then succeeds.
-/

namespace Bailiwick.Create

/-- A turn is the commit of a request, by the attempt with a number: before its transaction the request had
passed every check, and on the store that the turn meets it comes to the rows that the turn writes. -/
structure Makes (c : Company) (q : Request) (w : World) (turn : Turn) (client : ClientId) (name : HostName)
    (zone : Option String) (placement : Placement) (addresses : List IpAddress) (number : Nat)
    (created : Created) : Prop extends Passed c q w turn.world client name zone placement addresses where
  real : q.context.dryRun = false
  pos : 1 ≤ number
  le_budget : number ≤ max 1 q.service.maxAttempts
  commits : turn.commits = true
  decide_eq : decideOn name addresses client q.context.now q.context.correlation (q.ids number) turn.world.store
    (placement.superordinate?.map Domain.name) = .ok created
  writes_eq : turn.writes = created.writes

variable {c : Company} {q : Request} {u w v now : World} {turn : Turn} {client : ClientId} {name : HostName}
  {zone : Option String} {placement : Placement} {addresses : List IpAddress}

theorem Makes.store_after {number : Nat} {created : Created}
    (h : Makes c q w turn client name zone placement addresses number created) :
    turn.after.store = turn.world.store.applyAll created.writes := by
  rw [turn.store_after, h.writes_eq]

/-- The writes of a create store one host. -/
theorem hosts_eq_of_writes_eq {created : Created} (h : turn.writes = created.writes) :
    turn.hosts = [created.host] := by
  rw [Turn.hosts, h, Created.writes]
  cases created.host.superordinate <;> rfl

/-- What an attempt that evaluates to a value has decided and written. -/
theorem decideOn_of_evaluate {number : Nat} {s : Store} {created : Created} {writes : List Store.Write}
    (h : (q.attempt client name placement addresses number).evaluate s [] = (.ok created, writes)) :
    decideOn name addresses client q.context.now q.context.correlation (q.ids number) s
      (placement.superordinate?.map Domain.name) = .ok created ∧ writes = created.writes := by
  rw [Request.attempt, evaluate_body] at h
  cases hdecide : decideOn name addresses client q.context.now q.context.correlation (q.ids number) s
      (placement.superordinate?.map Domain.name) with
  | error refusal =>
      rw [hdecide] at h
      cases h
  | ok made =>
      rw [hdecide] at h
      cases h
      exact ⟨rfl, rfl⟩

/-- A transaction of a request that succeeds and is to last ends with the commit of the request. -/
theorem makes_of_ends {turns : List Turn} {created : Created}
    (hpassed : Passed c q w u client name zone placement addresses) (hreal : q.context.dryRun = false)
    (hends : Transaction.Ends c .commit (max 1 q.service.maxAttempts)
      (q.attempt client name placement addresses) u turns v (.ok created)) :
    ∃ turn number, turns = [turn] ∧ Makes c q w turn client name zone placement addresses number created ∧
      c.changes turn.after v := by
  cases hends with
  | rolledBack _ hmode _ => cases hmode
  | @committed turn _ number _ e hv _ hpos hnumber _ hattempt hop hcurrent =>
      obtain ⟨start, hstart, hreach⟩ := hattempt
      have hturn := c.trans hstart hreach.changes
      have heval := hreach.explains.evaluate_eq turn.world.store (.refl _) hcurrent
      obtain ⟨hdecide, hwrites⟩ := decideOn_of_evaluate heval
      refine ⟨turn, number, rfl, ⟨hpassed.of_changes hturn, hreal, hpos, hnumber, ?_, hdecide, ?_⟩, hv⟩
      · rw [Turn.commits, hop]
        exact hcurrent
      · rw [Turn.writes_of_isCurrent hop hcurrent, hwrites]

/-- What follows a commit commits nothing. -/
theorem Followed.commits_eq_false {turns : List Turn} {trail : Trail}
    (h : Followed c name w placement turns now trail) : ∀ turn ∈ turns, turn.commits = false := by
  intro turn hturn
  cases h with
  | external hrecord _ =>
      obtain rfl := List.mem_singleton.1 hturn
      rw [Turn.commits, hrecord.op]
  | subordinate henqueue hrecord _ =>
      rcases List.mem_cons.1 hturn with rfl | hlast
      · rw [Turn.commits, henqueue.op]
      · obtain rfl := List.mem_singleton.1 hlast
        rw [Turn.commits, hrecord.op]

/-- A request either commits as the first of its turns that are not quiet, and then succeeds, or has no such
turns at all and then is refused or a dry run. -/
theorem Course.makes_or_quiet {turns : List Turn} {result : Except Refusal Response} {trail : Trail}
    (h : Course c q w zone turns now result trail) :
    (∃ turn more client name placement addresses number created, turns = turn :: more ∧
      Makes c q w turn client name zone placement addresses number created ∧
      (∀ other ∈ more, other.commits = false) ∧ result = .ok (.ofCreated created false)) ∨
    (turns = [] ∧ ∀ response, result = .ok response → q.context.dryRun = true) := by
  cases h with
  | objected _ h => exact .inr ⟨rfl, nofun⟩
  | failed hu hpassed hends =>
      refine .inr ⟨?_, nofun⟩
      cases hends <;> rfl
  | rehearsed hu hpassed hdry hends =>
      refine .inr ⟨?_, fun _ _ => hdry⟩
      cases hends with
      | rolledBack => rfl
      | committed _ hmode => cases hmode
  | made hu hpassed hreal hends hfollowed =>
      obtain ⟨turn, number, rfl, hmakes, -⟩ := makes_of_ends hpassed hreal hends
      exact .inl ⟨turn, _, _, _, _, _, number, _, rfl, hmakes, hfollowed.commits_eq_false, rfl⟩

/-- A commit among the turns of a request is the commit of the request and the only one, and settles what the
request answers. -/
theorem Course.makes_of_mem {turns : List Turn} {result : Except Refusal Response} {trail : Trail}
    (h : Course c q w zone turns now result trail) (hmem : turn ∈ turns) (hcommits : turn.commits = true) :
    ∃ client name placement addresses number created,
      Makes c q w turn client name zone placement addresses number created ∧
      (∀ other ∈ turns, other.commits = true → other = turn) ∧ result = .ok (.ofCreated created false) := by
  rcases h.makes_or_quiet with ⟨first, more, client, name, placement, addresses, number, created, rfl, hmakes,
    hmore, hresult⟩ | ⟨rfl, -⟩
  · have hfirst : ∀ other ∈ first :: more, other.commits = true → other = first := by
      intro other hother hcommits'
      rcases List.mem_cons.1 hother with heq | hlater
      · exact heq
      · rw [hmore other hlater] at hcommits'
        cases hcommits'
    obtain rfl := hfirst turn hmem hcommits
    exact ⟨client, name, placement, addresses, number, created, hmakes, hfirst, hresult⟩
  · cases hmem

end Bailiwick.Create
