import Bailiwick.Proofs.Create.Commit
import Bailiwick.Proofs.Store.Built
import Bailiwick.Proofs.Transaction.Undisturbed

/-!
The verdict on a create that nobody disturbs: what its checks come to in their order when all of them are made
on one store. A create without company answers its verdict, and changes the store by the rows that go with it.
-/

namespace Bailiwick.Create

/-- Where a host belongs on one store, given the managed zone of its name. -/
def placeOn (s : Store) (name : HostName) (zone : Option String) (now : Instant) : Except Refusal Placement :=
  match zone with
  | none => .ok .external
  | some zone =>
    match s.activeDomain (superordinateName name zone) now with
    | some domain => .ok (.subordinate domain)
    | none => .error (.superordinateDomainDoesNotExist (superordinateName name zone))

/-- What the checks of a request come to on one store. -/
def Request.verdict (q : Request) (s : Store) : Except Refusal Created := do
  let some client := q.context.client | throw .notLoggedIn
  let name ← HostName.parse q.command.hostName
  let zone := name.properSuffixes.find? s.isManaged
  name.checkDepth (q.service.rules.longest name) zone
  let placement ← placeOn s name zone q.context.now
  let addresses ← placement.resolveAddresses q.command.addresses
  checkUnique (s.activeHost name.text q.context.now) name client .advisory
  decideOn name addresses client q.context.now q.context.correlation (q.ids 1) s
    (placement.superordinate?.map Domain.name)

/-- What a request answers on one store. -/
def Request.answerOn (q : Request) (s : Store) : Except Refusal Response :=
  (q.verdict s).map fun created => .ofCreated created q.context.dryRun

/-- The store that a request leaves of one that nobody else changes. -/
def Request.leave (q : Request) (s : Store) : Store :=
  match q.verdict s with
  | .error _ => s
  | .ok created => if q.context.dryRun then s else s.applyAll created.writes

variable {c : Company} {q : Request} {w now : World} {s : Store} {client : ClientId} {name : HostName}
  {zone : Option String} {placement : Placement} {addresses : List IpAddress}

/-- A search that saw of each zone what one store says of it found what that store says. -/
theorem Searched.eq_find? {seen : String → Bool → Prop} {suffixes : List String}
    (h : Searched seen suffixes zone) (hs : ∀ z managed, seen z managed → s.isManaged z = managed) :
    suffixes.find? s.isManaged = zone := by
  induction h with
  | exhausted => rfl
  | found h => rw [List.find?_cons_of_pos (hs _ _ h)]
  | passed h _ ih =>
      rw [List.find?_cons_of_neg (by rw [hs _ _ h]; exact Bool.false_ne_true)]
      exact ih

theorem Placed.placeOn_eq {instant : Instant} (h : Placed c w now name instant zone placement)
    (hs : ∀ domainName found, c.Meanwhile w now (fun t => t.activeDomain domainName instant = found) →
      s.activeDomain domainName instant = found) : placeOn s name zone instant = .ok placement := by
  cases h with
  | external => rfl
  | subordinate h => rw [placeOn, hs _ _ h]

variable {surroundings : Surroundings}

theorem Zoned.find?_eq (h : Zoned (Company.none surroundings) q w now client name zone) :
    name.properSuffixes.find? w.store.isManaged = zone :=
  h.scanned.eq_find? fun _ _ h => h.of_none

theorem Sited.placeOn_eq (h : Sited (Company.none surroundings) q w now client name zone placement) :
    placeOn w.store name zone q.context.now = .ok placement :=
  h.placed.placeOn_eq fun _ _ h => h.of_none

/-- Past the checks before it, the verdict on a request is what its transaction decides. -/
theorem verdict_eq_decideOn (hclient : q.context.client = some client)
    (hname : HostName.parse q.command.hostName = .ok name)
    (hzone : name.properSuffixes.find? s.isManaged = zone)
    (hdepth : name.checkDepth (q.service.rules.longest name) zone = .ok ())
    (hplace : placeOn s name zone q.context.now = .ok placement)
    (haddresses : placement.resolveAddresses q.command.addresses = .ok addresses)
    (hfree : s.activeHost name.text q.context.now = none) :
    q.verdict s = decideOn name addresses client q.context.now q.context.correlation (q.ids 1) s
      (placement.superordinate?.map Domain.name) := by
  simp only [Request.verdict, hclient, hname, hzone, hdepth, hplace, haddresses, hfree, bind, Except.bind,
    checkUnique, pure, Except.pure]

theorem Passed.verdict_eq (h : Passed (Company.none surroundings) q w now client name zone placement addresses) :
    q.verdict w.store = decideOn name addresses client q.context.now q.context.correlation (q.ids 1) w.store
      (placement.superordinate?.map Domain.name) :=
  verdict_eq_decideOn h.client_eq h.parse_eq h.find?_eq h.depth_eq h.placeOn_eq h.resolve_eq h.free.of_none

/-- Without company and with the store in reach a request is refused for what its verdict says. -/
theorem Objected.verdict_eq (hreach : ∀ call, surroundings.outage call = none) {refusal : Refusal} {trail : Trail}
    (h : Objected (Company.none surroundings) q w now refusal trail) : q.verdict w.store = .error refusal := by
  have hout (call : Call) (fault : Fault) := Company.not_outage_of_none hreach call fault
  cases h with
  | anonymous h => simp only [Request.verdict, h, throw, throwThe, MonadExceptOf.throw]
  | misnamed hclient h => simp only [Request.verdict, hclient, h, bind, Except.bind]
  | zoneOutage _ _ h => exact absurd h (hout _ _)
  | domainOutage _ _ h => exact absurd h (hout _ _)
  | hostOutage _ _ h => exact absurd h (hout _ _)
  | shallow hzone h =>
      simp only [Request.verdict, hzone.client_eq, hzone.parse_eq, hzone.find?_eq, h, bind, Except.bind]
  | @orphan _ name zone hzone hdepth h =>
      have hplace : placeOn w.store name (some zone) q.context.now
          = .error (.superordinateDomainDoesNotExist (superordinateName name zone)) := by
        rw [placeOn, h.of_none]
      simp only [Request.verdict, hzone.client_eq, hzone.parse_eq, hzone.find?_eq, hdepth, hplace, bind,
        Except.bind]
  | misaddressed hsite h =>
      simp only [Request.verdict, hsite.client_eq, hsite.parse_eq, hsite.find?_eq, hsite.depth_eq,
        hsite.placeOn_eq, h, bind, Except.bind]
  | held hsite haddresses h =>
      simp only [Request.verdict, hsite.client_eq, hsite.parse_eq, hsite.find?_eq, hsite.depth_eq,
        hsite.placeOn_eq, haddresses, h.of_none, checkUnique_advisory, bind, Except.bind]

/-- An attempt comes to what is decided, on the store that it reads. -/
theorem evaluate_attempt (placement : Placement) (number : Nat) (s : Store) :
    ((q.attempt client name placement addresses number).evaluate s []).1
      = decideOn name addresses client q.context.now q.context.correlation (q.ids number) s
          (placement.superordinate?.map Domain.name) := by
  rw [Request.attempt, evaluate_body]
  cases decideOn name addresses client q.context.now q.context.correlation (q.ids number) s
      (placement.superordinate?.map Domain.name) <;> rfl

/-- Without company what follows a commit leaves the store alone. -/
theorem Followed.store_eq {turns : List Turn} {trail : Trail}
    (h : Followed (Company.none surroundings) name w placement turns now trail) : now.store = w.store := by
  have hquiet := h.commits_eq_false
  cases h with
  | external hrecord hnow =>
      rw [hnow.store, Turn.store_after_of_not_commits (hquiet _ List.mem_cons_self), hrecord.since.store]
  | subordinate henqueue hrecord hnow =>
      rw [hnow.store, Turn.store_after_of_not_commits (hquiet _ (List.mem_cons_of_mem _ List.mem_cons_self)),
        hrecord.since.store, Turn.store_after_of_not_commits (hquiet _ List.mem_cons_self), henqueue.since.store]

/-- Without company and with the store in reach a request answers its verdict. -/
theorem Course.verdict_eq (hreach : ∀ call, surroundings.outage call = none) {turns : List Turn}
    {result : Except Refusal Response} {trail : Trail}
    (h : Course (Company.none surroundings) q w zone turns now result trail) :
    result = q.answerOn w.store ∧ now.store = q.leave w.store := by
  rw [Request.answerOn, Request.leave]
  cases h with
  | objected hnow h =>
      rw [h.verdict_eq hreach]
      exact ⟨rfl, hnow.store⟩
  | failed hu hpassed hends =>
      obtain ⟨hresult, hstore⟩ := hends.evaluate_eq_of_none (Nat.le_max_left 1 _) hreach
      rw [evaluate_attempt, hu.store] at hresult
      rw [hpassed.verdict_eq, hresult]
      refine ⟨rfl, hstore.trans ?_⟩
      rw [← hu.store]
      cases q.mode <;> rfl
  | rehearsed hu hpassed hdry hends =>
      obtain ⟨hresult, hstore⟩ := hends.evaluate_eq_of_none (Nat.le_max_left 1 _) hreach
      rw [evaluate_attempt, hu.store] at hresult
      rw [hpassed.verdict_eq, hresult, hdry]
      exact ⟨rfl, hstore.trans hu.store⟩
  | made hu hpassed hreal hends hfollowed =>
      obtain ⟨hresult, hstore⟩ := hends.evaluate_eq_of_none (Nat.le_max_left 1 _) hreach
      obtain ⟨hdecide, hwrites⟩ := decideOn_of_evaluate (Prod.ext hresult rfl)
      rw [hu.store] at hdecide hwrites
      rw [hpassed.verdict_eq, hdecide, hreal]
      refine ⟨rfl, hfollowed.store_eq.trans (hstore.trans ?_)⟩
      rw [hu.store]
      exact congrArg w.store.applyAll hwrites

/-- A create that nobody disturbs, with the store in reach, answers its verdict and leaves the rows that go with
it. -/
theorem run_work (hreach : ∀ call, surroundings.outage call = none) (q : Request) (w : World) :
    (q.work.run surroundings w).2 = q.answerOn w.store ∧
      (q.work.run surroundings w).1.store = q.leave w.store := by
  obtain ⟨turns, v, trail, ⟨zone, hcourse⟩, hv⟩ := (ensures_work (Company.none_grows surroundings) q w).exists_end rfl
  obtain ⟨hresult, hstore⟩ := hcourse.verdict_eq hreach
  exact ⟨hresult, hv.store.trans hstore⟩

/-- A store with a managed zone and a domain under it. -/
def delegated : Store :=
  (Store.empty.edit (.addZone "tld")).edit (.putDomain (.new ⟨.ofNat 7⟩ "example.tld" ⟨"TheRegistrar"⟩ .epoch))

theorem built_delegated : delegated.Built := .edit (.edit .empty _) _

/-- A request for a host under that domain. -/
def glued (client : ClientId) (addresses : List DeclaredAddress) : Request where
  service := { rules := .empty, maxAttempts := 3, refreshDeadline := 1000 }
  context := { client := some client, now := .epoch, correlation := .ofNat 1, dryRun := false }
  ids number := { host := ⟨.ofNat (10 + number)⟩, entry := .ofNat (20 + number) }
  command := { hostName := "ns1.example.tld", addresses }

end Bailiwick.Create
