import Bailiwick.Proofs.Create.Peers
import Bailiwick.Proofs.Create.Rehearsal
import Bailiwick.Proofs.HostName.Checks
import Bailiwick.Proofs.Store.Commuting

/-!
Creates of different names in any order. What a create comes to on a store depends on the zones, on the domains but
for the hosts under them, and on the rows of its own name; a create of another name changes none of these. The rows
that creates leave can be stored in any order, as far as identifiers and the order of the history do not count.
-/

namespace Bailiwick

namespace Create

variable {q : Request} {s t : Store} {w : World} {client : ClientId} {name : HostName} {addresses : List IpAddress}
  {domainName : Option String} {now : Instant} {correlation : Uuid} {ids : FreshIds} {created : Created}

/-- Rows that agree but for the names of their hosts are the same to whatever follows the placement of a host. -/
theorem bind_placeOn_congr {β : Type} (h : s.SameGround t) (name : HostName) (zone : Option String) (now : Instant)
    {f : Placement → Except Refusal β}
    (hf : ∀ d e : Domain, d.bare = e.bare → f (.subordinate d) = f (.subordinate e)) :
    placeOn t name zone now >>= f = placeOn s name zone now >>= f := by
  cases zone with
  | none => rfl
  | some z =>
      have hbare := Store.activeDomain_congr (h.domains (superordinateName name z)) now
      rw [placeOn, placeOn]
      cases ht : t.activeDomain (superordinateName name z) now with
      | none =>
          rw [ht] at hbare
          rw [Option.map_eq_none_iff.1 hbare.symm]
      | some domain =>
          rw [ht] at hbare
          obtain ⟨other, hother, hsame⟩ := Option.map_eq_some_iff.1 hbare.symm
          rw [hother]
          exact (hf other domain hsame).symm

theorem activeHost_congr {name : String} (hrows : t.hostsNamed name = s.hostsNamed name) (now : Instant) :
    t.activeHost name now = s.activeHost name now := by
  rw [Store.activeHost, Store.activeHost, hrows]

/-- The decision on a create depends on the ground and on the rows of its name. -/
theorem decideOn_congr (h : s.SameGround t) (hrows : t.hostsNamed name.text = s.hostsNamed name.text) :
    decideOn name addresses client now correlation ids t domainName
      = decideOn name addresses client now correlation ids s domainName := by
  rw [decideOn, decideOn, activeHost_congr hrows, superordinateOn_eq_of_sameGround h]

theorem exists_of_bind_eq_ok {α β : Type} {x : Except Refusal α} {f : α → Except Refusal β} {b : β}
    (h : x >>= f = .ok b) : ∃ a, x = .ok a ∧ f a = .ok b := by
  cases x with
  | error refusal => cases h
  | ok a => exact ⟨a, rfl, h⟩

/-- What follows a check matters only for what the check comes to. -/
theorem bind_congr_of_ok {α β : Type} {x : Except Refusal α} {f g : α → Except Refusal β}
    (h : ∀ a, x = .ok a → f a = g a) : x >>= f = x >>= g := by
  cases x with
  | error refusal => rfl
  | ok a => exact h a rfl

/-- What a request takes to its transaction. -/
structure Clearance where
  client : ClientId
  name : HostName
  addresses : List IpAddress
  domainName : Option String

namespace Request

/-- What the checks before the transaction come to on one store. -/
def cleared (q : Request) (s : Store) : Except Refusal Clearance := do
  let some client := q.context.client | throw .notLoggedIn
  let name ← HostName.parse q.command.hostName
  let zone := s.zoneOf name
  name.checkDepth (q.service.rules.longest name) zone
  let placement ← placeOn s name zone q.context.now
  let addresses ← placement.resolveAddresses q.command.addresses
  checkUnique (s.activeHost name.text q.context.now) name client .advisory
  return { client, name, addresses, domainName := placement.superordinate?.map Domain.name }

/-- The verdict on a request is the decision on what it takes to its transaction. -/
theorem verdict_eq_bind (q : Request) (s : Store) : q.verdict s = q.cleared s >>= fun c =>
    decideOn c.name c.addresses c.client q.context.now q.context.correlation (q.ids 1) s c.domainName := by
  rw [verdict, cleared]
  cases q.context.client with
  | none => rfl
  | some client => simp only [Store.zoneOf, bind_assoc, pure_bind]

theorem parse_of_cleared {clearance : Clearance} (h : q.cleared s = .ok clearance) :
    HostName.parse q.command.hostName = .ok clearance.name := by
  rw [cleared] at h
  cases hclient : q.context.client with
  | none =>
      rw [hclient] at h
      cases h
  | some client =>
      rw [hclient] at h
      obtain ⟨name, hname, h⟩ := exists_of_bind_eq_ok h
      obtain ⟨_, -, h⟩ := exists_of_bind_eq_ok h
      obtain ⟨placement, -, h⟩ := exists_of_bind_eq_ok h
      obtain ⟨addresses, -, h⟩ := exists_of_bind_eq_ok h
      obtain ⟨_, -, h⟩ := exists_of_bind_eq_ok h
      obtain rfl := Except.ok.inj h
      exact hname

theorem cleared_congr (h : s.SameGround t)
    (hrows : t.hostsNamed q.command.hostName = s.hostsNamed q.command.hostName) : q.cleared t = q.cleared s := by
  rw [cleared, cleared]
  cases q.context.client with
  | none => rfl
  | some client =>
      refine bind_congr_of_ok fun name hname => ?_
      rw [← HostName.text_of_parse hname] at hrows
      simp only [h.zoneOf_eq name, activeHost_congr hrows]
      refine bind_congr_of_ok fun _ _ => ?_
      refine bind_placeOn_congr h name _ _ fun d e hbare => ?_
      simp only [Placement.superordinate?, Option.map_some, Domain.name_of_bare hbare]
      rfl

/-- The verdict depends on the ground and on the rows of the name that is asked for. -/
theorem verdict_congr (h : s.SameGround t)
    (hrows : t.hostsNamed q.command.hostName = s.hostsNamed q.command.hostName) : q.verdict t = q.verdict s := by
  rw [verdict_eq_bind, verdict_eq_bind, cleared_congr h hrows]
  refine bind_congr_of_ok fun clearance hcleared => ?_
  apply decideOn_congr h
  rwa [HostName.text_of_parse (parse_of_cleared hcleared)]

/-- The row of a create has the name that was asked for. -/
theorem name_of_verdict (h : q.verdict s = .ok created) : created.host.name.text = q.command.hostName := by
  rw [verdict_eq_bind] at h
  obtain ⟨clearance, hcleared, hdecide⟩ := exists_of_bind_eq_ok h
  obtain ⟨-, key, -, rfl⟩ := decideOn_eq_ok hdecide
  exact HostName.text_of_parse (parse_of_cleared hcleared)

end Request

/-- Identifiers that stand for any others. -/
def FreshIds.blank : FreshIds := ⟨⟨.ofNat 0⟩, .ofNat 0⟩

/-- A request but for the identifiers that it draws. -/
def Request.unkeyed (q : Request) : Request := { q with ids := fun _ => .blank }

/-- The rows of a create but for their identifiers. -/
def Created.unkeyed (created : Created) : Created := created.renewed .blank

/-- An answer but for the identifiers in it. -/
def Response.unkeyed (response : Response) : Response :=
  { response with hostKey := FreshIds.blank.host, historyEntry := FreshIds.blank.entry }

namespace Request

/-- Other identifiers show in the rows of a create alone. -/
theorem verdict_unkeyed (q : Request) (s : Store) : q.unkeyed.verdict s = (q.verdict s).map Created.unkeyed := by
  have hcleared : q.unkeyed.cleared s = q.cleared s := rfl
  rw [verdict_eq_bind, verdict_eq_bind, hcleared]
  cases q.cleared s with
  | error refusal => rfl
  | ok clearance => exact decideOn_renewed ..

theorem answerOn_unkeyed (q : Request) (s : Store) : q.unkeyed.answerOn s = (q.answerOn s).map Response.unkeyed := by
  rw [answerOn, answerOn, verdict_unkeyed]
  cases q.verdict s <;> rfl

/-- The rows that a request stores on one store, if any. -/
def creates? (q : Request) (s : Store) : Option Created :=
  match q.verdict s with
  | .error _ => none
  | .ok created => if q.context.dryRun then none else some created

theorem verdict_of_creates? (h : q.creates? s = some created) : q.verdict s = .ok created := by
  rw [creates?] at h
  split at h
  · cases h
  · next made hmade =>
      split at h
      · cases h
      · rw [hmade, Option.some.inj h]

theorem creates?_unkeyed (q : Request) (s : Store) : q.unkeyed.creates? s = (q.creates? s).map Created.unkeyed := by
  rw [creates?, creates?, verdict_unkeyed]
  cases q.verdict s with
  | error refusal => rfl
  | ok created =>
      show (if q.context.dryRun then none else some created.unkeyed) = _
      cases q.context.dryRun <;> rfl

theorem leave_eq (q : Request) (s : Store) :
    q.leave s = s.applyAll ((q.creates? s).toList.flatMap Created.writes) := by
  rw [leave, creates?]
  cases q.verdict s with
  | error refusal => rfl
  | ok created =>
      cases q.context.dryRun with
      | true => rfl
      | false => exact congrArg s.applyAll (List.flatMap_singleton ..).symm

end Request

/-- Requests that are made one after the other, each with what it meets, and what they answer. -/
def inTurn (w : World) : List (Surroundings × Request) → World × List (Request × Except Refusal Response)
  | [] => (w, [])
  | (surroundings, q) :: rest =>
    let (u, answer) := q.work.run surroundings w
    let (final, answers) := inTurn u rest
    (final, (q, answer) :: answers)

/-- The rows that requests store when each is put to one store. -/
def createsOn (s : Store) (calls : List (Surroundings × Request)) : List Created :=
  calls.filterMap fun call => call.2.creates? s

variable {calls calls' : List (Surroundings × Request)}

/-- Requests for different names answer one after the other what each of them answers on the first store, and leave the
rows that each of them stores there. -/
theorem inTurn_eq (hreach : ∀ call ∈ calls, ∀ c, call.1.outage c = none)
    (hnames : (calls.map fun call => call.2.command.hostName).Nodup) (hground : s.SameGround w.store)
    (hrows : ∀ call ∈ calls, w.store.hostsNamed call.2.command.hostName = s.hostsNamed call.2.command.hostName) :
    (inTurn w calls).1.store = w.store.applyAll ((createsOn s calls).flatMap Created.writes) ∧
      (inTurn w calls).2 = calls.map fun call => (call.2, call.2.answerOn s) := by
  induction calls generalizing w with
  | nil => exact ⟨rfl, rfl⟩
  | cons call rest ih =>
      obtain ⟨surroundings, q⟩ := call
      obtain ⟨hfirst, hrest⟩ := List.nodup_cons.1 hnames
      obtain ⟨hanswer, hleft⟩ := run_work (hreach _ List.mem_cons_self) q w
      have hverdict : q.verdict w.store = q.verdict s := Request.verdict_congr hground (hrows _ List.mem_cons_self)
      have hcreates : q.creates? w.store = q.creates? s := by rw [Request.creates?, hverdict, Request.creates?]
      rw [Request.answerOn, hverdict, ← Request.answerOn] at hanswer
      rw [q.leave_eq, hcreates] at hleft
      -- The rows of the first request stand under its name, so they are not seen by the others.
      have hseen (other : Surroundings × Request) (hother : other ∈ rest) :
          (q.work.run surroundings w).1.store.hostsNamed other.2.command.hostName
            = w.store.hostsNamed other.2.command.hostName := by
        have hne : other.2.command.hostName ≠ q.command.hostName :=
          fun hsame => hfirst (List.mem_map.2 ⟨other, hother, hsame⟩)
        rw [hleft]
        cases hcreated : q.creates? s with
        | none => rfl
        | some created =>
            rw [Option.toList_some, List.flatMap_singleton, hostsNamed_writes,
              Request.name_of_verdict (Request.verdict_of_creates? hcreated), if_neg hne, List.append_nil]
      have hnext : s.SameGround (q.work.run surroundings w).1.store := by
        rw [hleft]
        exact hground.trans (w.store.sameGround_applyAll _)
      obtain ⟨hstore, hanswers⟩ := ih (fun other hother => hreach other (List.mem_cons_of_mem _ hother)) hrest hnext
        fun other hother => (hseen other hother).trans (hrows other (List.mem_cons_of_mem _ hother))
      constructor
      · refine hstore.trans ?_
        have hsplit : createsOn s ((surroundings, q) :: rest) = (q.creates? s).toList ++ createsOn s rest := by
          rw [createsOn, List.filterMap_cons]
          cases q.creates? s <;> rfl
        rw [hleft, hsplit, List.flatMap_append, Store.applyAll, Store.applyAll, Store.applyAll, List.foldl_append]
      · exact congrArg₂ List.cons (congrArg (Prod.mk q) hanswer) hanswers

theorem writes_unkeyed (created : Created) : created.unkeyed.writes = created.writes.map Store.Write.unkeyed := by
  rw [Created.writes, Created.writes]
  show _ ++ (created.host.superordinate.map _).toList = _
  cases created.host.superordinate <;> rfl

theorem hosts_writes (createds : List Created) :
    (createds.flatMap Created.writes).flatMap Store.Write.hosts = createds.map Created.host := by
  rw [List.flatMap_assoc, ← List.flatMap_singleton' (createds.map Created.host), List.flatMap_map]
  congr 1
  funext created
  rw [Created.writes]
  cases created.host.superordinate <;> rfl

theorem charges_writes (createds : List Created) :
    (createds.flatMap Created.writes).flatMap Store.Write.charges = [] := by
  rw [List.flatMap_assoc, List.flatMap_eq_nil_iff]
  intro created _
  rw [Created.writes]
  cases created.host.superordinate <;> rfl

/-- The rows that requests for different names store have different names. -/
theorem nodup_createsOn (hnames : (calls.map fun call => call.2.command.hostName).Nodup) (s : Store) :
    ((createsOn s calls).map fun created => created.host.name.text).Nodup := by
  refine List.pairwise_map.2 (List.Pairwise.filterMap _ ?_ (List.pairwise_map.1 hnames))
  intro call call' hne created hcreated created' hcreated' hsame
  rw [Request.name_of_verdict (Request.verdict_of_creates? hcreated),
    Request.name_of_verdict (Request.verdict_of_creates? hcreated')] at hsame
  exact hne hsame

theorem createsOn_unkeyed (s : Store) (calls : List (Surroundings × Request)) :
    (createsOn s calls).map Created.unkeyed
      = (calls.map fun call => call.2.unkeyed).filterMap fun q => q.creates? s := by
  rw [createsOn, List.map_filterMap, List.filterMap_map]
  congr 1
  funext call
  exact (call.2.creates?_unkeyed s).symm

/-- An answer with its request, but for identifiers. -/
def blankAnswer (answer : Request × Except Refusal Response) : Request × Except Refusal Response :=
  (answer.1.unkeyed, answer.2.map Response.unkeyed)

theorem answers_unkeyed (s : Store) (calls : List (Surroundings × Request)) :
    (calls.map fun call => (call.2, call.2.answerOn s)).map blankAnswer
      = (calls.map fun call => call.2.unkeyed).map fun q => (q, q.answerOn s) := by
  rw [List.map_map, List.map_map]
  congr 1
  funext call
  exact congrArg (Prod.mk call.2.unkeyed) (call.2.answerOn_unkeyed s).symm

/-- Requests for different names, made one after the other in any two orders and each time with identifiers of their
own, are answered the same in both, and lead to stores that differ in these identifiers and in the order of the history
alone. -/
theorem createHost_reorders (hreach : ∀ call ∈ calls ++ calls', ∀ c, call.1.outage c = none)
    (hnames : (calls.map fun call => call.2.command.hostName).Nodup)
    (hperm : (calls.map fun call => call.2.unkeyed).Perm (calls'.map fun call => call.2.unkeyed)) (w : World) :
    ((inTurn w calls).2.map blankAnswer).Perm ((inTurn w calls').2.map blankAnswer) ∧
      w.store.GrownAlike (inTurn w calls).1.store (inTurn w calls').1.store := by
  have hnames' : (calls'.map fun call => call.2.command.hostName).Nodup := by
    have hraw := hperm.map fun q => q.command.hostName
    rw [List.map_map, List.map_map] at hraw
    exact hraw.nodup_iff.1 hnames
  obtain ⟨hstore, hanswers⟩ := inTurn_eq (fun call hcall => hreach call (List.mem_append_left _ hcall)) hnames
    (.refl w.store) fun _ _ => rfl
  obtain ⟨hstore', hanswers'⟩ := inTurn_eq (fun call hcall => hreach call (List.mem_append_right _ hcall)) hnames'
    (.refl w.store) fun _ _ => rfl
  constructor
  · rw [hanswers, hanswers', answers_unkeyed, answers_unkeyed]
    exact hperm.map _
  · have hcreated := hperm.filterMap fun q => q.creates? w.store
    rw [← createsOn_unkeyed, ← createsOn_unkeyed] at hcreated
    rw [hstore, hstore']
    refine Store.grownAlike_applyAll w.store ?_ ?_ (charges_writes _)
    · have hwrites := hcreated.flatMap_right Created.writes
      rw [List.flatMap_map, List.flatMap_map] at hwrites
      simp only [writes_unkeyed] at hwrites
      rw [List.map_flatMap, List.map_flatMap]
      exact hwrites
    · rw [hosts_writes, List.map_map]
      exact nodup_createsOn hnames w.store

/-- Two hosts under one domain, a host that is refused for its address, and the dry run of a third. -/
def assorted (ids : Nat → FreshIds) : List (Surroundings × Request) :=
  let ask (hostName : String) (dryRun : Bool) : Request :=
    let q := glued ⟨"TheRegistrar"⟩ [⟨.v4, "192.0.2.1"⟩]
    { q with context := { q.context with dryRun }, command := { q.command with hostName }, ids }
  [(.calm, ask "ns1.example.tld" false), (.calm, ask "ns.example.org" false), (.calm, ask "ns3.example.tld" true),
    (⟨fun _ => none, .late⟩, ask "ns2.example.tld" false)]

theorem createHost_reorders_assorted :
    let w : World := { store := delegated }
    let calls := assorted fun number => ⟨⟨.ofNat (10 + number)⟩, .ofNat (20 + number)⟩
    let calls' := (assorted fun number => ⟨⟨.ofNat (30 + number)⟩, .ofNat (40 + number)⟩).reverse
    (inTurn w calls).1.store.history.map (fun e => e.hostName.text) = ["ns1.example.tld", "ns2.example.tld"] ∧
      (inTurn w calls').1.store.history.map (fun e => e.hostName.text) = ["ns2.example.tld", "ns1.example.tld"] ∧
      ((inTurn w calls).2.map blankAnswer).Perm ((inTurn w calls').2.map blankAnswer) ∧
      w.store.GrownAlike (inTurn w calls).1.store (inTurn w calls').1.store := by
  intro w calls calls'
  have hreach : ∀ call ∈ calls ++ calls', ∀ c, call.1.outage c = none := by
    intro call hcall c
    simp only [calls, calls', assorted, List.mem_append, List.mem_reverse, List.mem_cons, List.not_mem_nil,
      or_false] at hcall
    rcases hcall with (rfl | rfl | rfl | rfl) | (rfl | rfl | rfl | rfl) <;> rfl
  have hnames : (calls.map fun call => call.2.command.hostName).Nodup := by decide +kernel
  have hperm : (calls.map fun call => call.2.unkeyed).Perm (calls'.map fun call => call.2.unkeyed) :=
    (List.reverse_perm (calls.map fun call => call.2.unkeyed)).symm
  obtain ⟨hanswers, hstores⟩ := createHost_reorders hreach hnames hperm w
  exact ⟨by decide +kernel, by decide +kernel, hanswers, hstores⟩

end Create

end Bailiwick
