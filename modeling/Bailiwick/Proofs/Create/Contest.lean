import Bailiwick.Proofs.Create.Peers
import Bailiwick.Proofs.HostName.Checks
import Bailiwick.Proofs.RunStores

/-!
The contest for a name. Of several creates of one free name, with no other writer, one succeeds. An attempt can only
be overtaken by a create of its own name, whose row the next attempt then meets, whatever clock it reads; so two
attempts decide every request, and a request that loses is told that its name is taken.
-/

namespace Bailiwick.Create

open Deed Transaction

variable {acts : List Act} {w u : World} {number : Nat} {q : Request} {client : ClientId} {name : HostName}
  {zone : Option String} {placement : Placement} {addresses : List IpAddress} {result : Except Refusal Response}

/-- An attempt of a create that conflicts among creates alone was overtaken by a create of its name. -/
theorem exists_commit_of_conflicts (hacts : ∀ act ∈ acts, act.IsCreate)
    {trial : Trial number (q.attempt client name placement addresses)}
    (hrunning : ∀ deed ∈ trial.running, deed ∈ (opened w).deeds (moves acts)) (h : trial.Conflicts) :
    ∃ k turn other, Deed.turn k turn ∈ trial.running ∧ (k, turn) ∈ (opened w).commits (moves acts) ∧
      (requested acts)[k]? = some other ∧ HostName.parse other.command.hostName = .ok name ∧
      turn.after.store.Holds name.text := by
  obtain ⟨asides, first, since, read, hsplit, hasides, -⟩ := exists_first trial
  obtain ⟨deed, hdeed, key, hkey, hreads⟩ := exists_bump_of_conflicts h hsplit hasides
  have hmem : deed ∈ trial.running := by
    rw [hsplit]
    exact List.mem_append_right asides (List.mem_cons_of_mem _ hdeed)
  obtain ⟨k, turn, other, name', rfl, hcommit, hother, hparse, rfl, hholds⟩ :=
    exists_commit_of_bump hacts (hrunning deed hmem) hkey
  obtain rfl : name' = name := by
    rcases hreads with hhost | ⟨d, -, hdomain⟩
    · exact HostName.text_injective (ReadKey.host.inj hhost)
    · cases hdomain
  exact ⟨k, turn, other, hmem, hcommit, hother, hparse, hholds⟩

/-- After an attempt that conflicted the next finds the name taken. -/
theorem not_ok_of_conflicts (hacts : ∀ act ∈ acts, act.IsCreate) {opening rest : List Deed}
    {trial next : Trial number (q.attempt client name placement addresses)}
    {more : List (Trial number (q.attempt client name placement addresses))}
    (hdeeds : (opened w).deeds (moves acts) = opening ++ (trial :: next :: more).flatMap Trial.deeds ++ rest)
    (h : trial.Conflicts) : next.result = .error (.createContention name.text) := by
  obtain ⟨k, turn, other, hturn, -, -, -, hholds⟩ := exists_commit_of_conflicts hacts
    (fun deed => mem_deeds_of_mem_running hdeeds List.mem_cons_self) h
  obtain ⟨asides, first, since, read, hsplit, -, -, -, hdecided⟩ := exists_first next
  have hunbroken := ((opened w).unbroken_deeds (moves acts)).1
  rw [hdeeds, List.flatMap_cons, List.append_assoc, List.append_assoc, ← List.append_assoc] at hunbroken
  have hearlier : Deed.turn k turn ∈ opening ++ trial.deeds :=
    List.mem_append_right _ (List.mem_append_left _ (List.mem_append_left _ hturn))
  have hlater : Deed.turn number first ∈ (next :: more).flatMap Trial.deeds ++ rest := by
    refine List.mem_append_left _ (List.mem_flatMap.2 ⟨next, List.mem_cons_self, ?_⟩)
    refine List.mem_append_left _ (List.mem_append_left _ ?_)
    rw [hsplit]
    exact List.mem_append_right asides List.mem_cons_self
  have hheld := (hholds.of_later (hunbroken.later_of_mem hearlier hlater)).activeHost_ne_none q.context.now
  -- The next attempt asks after the commit that overtook the first, and the row is active at its clock too.
  generalize next.result = reached at hdecided
  cases hdecided with
  | held _ => rfl
  | free hfree => exact absurd hfree hheld

/-- With two attempts the budget of a create is not used up. -/
theorem not_exhausted (hacts : ∀ act ∈ acts, act.IsCreate) (hbudget : 2 ≤ q.service.maxAttempts)
    {opening rest : List Deed} {trials : List (Trial number (q.attempt client name placement addresses))}
    (hdeeds : (opened w).deeds (moves acts) = opening ++ trials.flatMap Trial.deeds ++ rest)
    {reached : Except Refusal Created} {applied : List Store.Write}
    (h : Account q.mode (max 1 q.service.maxAttempts) trials reached applied)
    (hlength : trials.length = max 1 q.service.maxAttempts) (hall : ∀ trial ∈ trials, trial.Conflicts) : False := by
  match trials, hlength with
  | [], hlength => simp only [List.length_nil] at hlength; omega
  | [_], hlength => simp only [List.length_singleton] at hlength; omega
  | trial :: next :: more, _ =>
      have hnext : next ∈ trial :: next :: more := List.mem_cons_of_mem _ List.mem_cons_self
      obtain ⟨⟨-, value, hok⟩, -⟩ := (h.conflicts_iff next hnext).1 (hall next hnext)
      cases hok.symm.trans (not_ok_of_conflicts hacts hdeeds (hall trial List.mem_cons_self))

theorem lasting_of_decided {ordinal : Nat} {first read : Turn} {reached : Except Refusal Created}
    (h : Decided q client name placement addresses ordinal first read reached) : Lasting reached := by
  cases h with
  | held _ => exact lasting_error rfl
  | free _ => exact (lasting_superordinateOn _ _ _).map _

/-- Among creates alone no request ends in a fault of the surroundings. -/
theorem Chronicle.lasting (hacts : ∀ act ∈ acts, act.IsCreate) (hbudget : 2 ≤ q.service.maxAttempts) {now : World}
    (h : Chronicle .peers number q u now ((opened w).deeds (moves acts)) result) : Lasting result := by
  cases h with
  | objected _ h _ => exact lasting_error h.lasting
  | unopened _ h => exact absurd h (Company.not_outage_of_peers _ _)
  | accounted opening trials rest hdeeds _ _ _ _ haccount =>
      refine Lasting.map ?_ _
      rcases haccount.outcome with ⟨earlier, last, -, -, -, rfl, -⟩ | ⟨hlength, hall, -⟩
      · obtain ⟨_, _, _, _, -, -, -, -, hdecided⟩ := exists_first last
        exact lasting_of_decided hdecided
      · exact (not_exhausted hacts hbudget hdeeds haccount hlength hall).elim

/-- Some request of a run has committed a name. -/
def Committed (w : World) (acts : List Act) (name : HostName) : Prop :=
  ∃ number turn q, (number, turn) ∈ (opened w).commits (moves acts) ∧ (requested acts)[number]? = some q ∧
    HostName.parse q.command.hostName = .ok name

/-- A request that qualifies may have its domain whenever it asks for it. -/
theorem exists_superordinateOn (hacts : ∀ act ∈ acts, act.IsCreate) (hw : w.store.Orderly)
    (hu : Company.peers.changes w u) (hq : q.Qualifies w.store name) {v : World}
    (hpassed : Passed .peers q u v client name zone placement addresses) {read : Turn}
    (hread : (number, read) ∈ (opened w).turns (moves acts)) :
    ∃ key, superordinateOn read.world.store (placement.superordinate?.map Domain.name) q.context.now = .ok key := by
  have hmet := (Registry.changes_of_mem_turns (r := opened w) (admits_moves (peers_admits hacts)) hread).2
  have hthen := hq.of_sameGround hmet
  obtain ⟨_, -, -, hdomain⟩ := hpassed.exists_placeOn (hu.1.orderly hw)
  have hzone : read.world.store.zoneOf name = zone := by rw [(hu.2.symm.trans hmet).zoneOf_eq, hpassed.zoneOf_eq]
  have hkey := exists_superordinateOn_iff.2 ⟨hthen.delegated, hthen.alive⟩
  rw [hzone, ← hdomain] at hkey
  exact hkey

/-- A request that qualifies ends in success, unless its name turns out to be held or all its attempts were overtaken
by creates of its name. -/
theorem Chronicle.decides (hacts : ∀ act ∈ acts, act.IsCreate) (hw : w.store.Orderly)
    (hu : Company.peers.changes w u) (hq : q.Qualifies w.store name)
    (h : Chronicle .peers number q u ((opened w).play (moves acts)).world ((opened w).deeds (moves acts)) result) :
    (∃ response, result = .ok response) ∨
      (∃ refusal, result = .error refusal ∧
        (refusal = .alreadyExistsForThisClient name.text ∨ refusal = .createContention name.text) ∧
        ((opened w).play (moves acts)).world.store.activeHost name.text q.context.now ≠ none) ∨
      (∃ fault, result = .error (.fault fault)) ∧ Committed w acts name := by
  have hqualifies := hq.of_sameGround hu.2
  have horderly := hu.1.orderly hw
  cases h with
  | objected _ h hnow =>
      obtain ⟨hrefusal, hheld⟩ := h.held_of_qualifies hqualifies horderly
      exact .inr (.inl ⟨_, rfl, hrefusal, Store.activeHost_ne_none_of_later hnow.1 hheld⟩)
  | unopened _ h => exact absurd h (Company.not_outage_of_peers _ _)
  | @accounted _ _ named zone placement _ _ _ opening trials rest hdeeds _ _ hpassed _ haccount =>
      obtain rfl : named = name := Except.ok.inj (hpassed.parse_eq.symm.trans hq.parse_eq)
      rcases haccount.outcome with ⟨earlier, last, rfl, -, -, rfl, -⟩ | ⟨hlength, hall, rfl, -⟩
      · -- The last attempt decides; its first question tells whether the name was held by then.
        have hlast : last ∈ earlier ++ [last] := List.mem_append_right earlier (List.mem_singleton_self last)
        have hturns {turn : Turn} (hturn : Deed.turn number turn ∈ last.running) :
            (number, turn) ∈ (opened w).turns (moves acts) :=
          Registry.mem_deeds.1 (mem_deeds_of_mem_running hdeeds hlast hturn)
        obtain ⟨asides, first, since, read, hrunning, -, -, hread, hdecided⟩ := exists_first last
        have hfirst : Deed.turn number first ∈ last.running := by
          rw [hrunning]
          exact List.mem_append_right asides List.mem_cons_self
        generalize last.result = reached at hdecided
        cases hdecided with
        | held hheld =>
            refine .inr (.inl ⟨_, rfl, .inr rfl, ?_⟩)
            have hfinal : first.after.store.Later ((opened w).play (moves acts)).world.store :=
              Registry.later_of_mem_turns (hturns hfirst)
            have hstep := first.world.later_perform first.surroundings first.op
            refine Store.activeHost_ne_none_of_later (hstep.trans hfinal) ?_
            rw [hheld]
            nofun
        | free _ =>
            obtain ⟨key, hkey⟩ := exists_superordinateOn hacts hw hu hq hpassed (hturns hread)
            rw [hkey]
            exact .inl ⟨_, rfl⟩
      · refine .inr (.inr ⟨⟨_, rfl⟩, ?_⟩)
        obtain ⟨trial, htrial⟩ : ∃ trial, trial ∈ trials := by
          refine List.exists_mem_of_length_pos ?_
          rw [hlength]
          exact Nat.le_max_left 1 _
        obtain ⟨k, turn, other, -, hcommit, hother, hparse, -⟩ := exists_commit_of_conflicts hacts
          (fun deed => mem_deeds_of_mem_running hdeeds htrial) (hall trial htrial)
        exact ⟨k, turn, other, hcommit, hother, hparse⟩

/-- A request of a run contends for a name: it is no dry run, and on a store it passes every check but the one that
the name is free. -/
def Contends (acts : List Act) (s : Store) (name : HostName) (number : Nat) : Prop :=
  ∃ q, (requested acts)[number]? = some q ∧ q.context.dryRun = false ∧ q.Qualifies s name

/-- Among creates alone whoever commits has contended for the name, and succeeds. -/
theorem contends_of_mem_commits (hacts : ∀ act ∈ acts, act.IsCreate) (hw : w.store.Orderly) {turn : Turn}
    (hturn : (number, turn) ∈ (opened w).commits (moves acts)) (hq : (requested acts)[number]? = some q)
    (hname : HostName.parse q.command.hostName = .ok name) :
    Contends acts w.store name number ∧ ∀ result,
      ((opened w).play (moves acts)).requests[number]? = some (.done result) → ∃ response, result = .ok response := by
  have hadmits := peers_admits hacts
  obtain ⟨q', u, client, named, zone, placement, addresses, attempt, created, hq', hu, hmakes, -, hresult⟩ :=
    makes_of_mem_commits Company.peers_grows ⟨.calm, fun _ => rfl⟩ hadmits hturn
  obtain rfl := Option.some.inj (hq'.symm.trans hq)
  obtain rfl : named = name := Except.ok.inj (hmakes.parse_eq.symm.trans hname)
  obtain ⟨-, key, hkey, -⟩ := decideOn_eq_ok hmakes.decide_eq
  have hmet := Registry.changes_of_mem_turns (r := opened w) (admits_moves hadmits) (Registry.mem_commits.1 hturn).1
  have hqualifies := hmakes.qualifies (hu.1.orderly hw) (hu.2.symm.trans hmet.2) hkey
  refine ⟨⟨q', hq, hmakes.real, hqualifies.of_sameGround hu.2.symm⟩, fun result hdone => ?_⟩
  exact ⟨_, hresult result hdone⟩

/-- Of the creates of one name only one commits. -/
theorem eq_of_mem_commits {number' : Nat} {q' : Request} {turn turn' : Turn}
    (hturn : (number, turn) ∈ (opened w).commits (moves acts))
    (hturn' : (number', turn') ∈ (opened w).commits (moves acts)) (hq : (requested acts)[number]? = some q)
    (hq' : (requested acts)[number']? = some q')
    (hsame : HostName.parse q.command.hostName = HostName.parse q'.command.hostName) : number = number' := by
  obtain ⟨i, hi, hget⟩ := List.getElem_of_mem hturn
  obtain ⟨j, hj, hget'⟩ := List.getElem_of_mem hturn'
  have hdiffer := List.pairwise_iff_getElem.1 (pairwise_commits w acts)
  rcases Nat.lt_trichotomy i j with hlt | rfl | hlt
  · have hnames := hdiffer i j hi hj hlt q q'
    rw [hget, hget'] at hnames
    exact absurd hsame (hnames hq hq')
  · exact congrArg Prod.fst (hget.symm.trans hget')
  · have hnames := hdiffer j i hj hi hlt q' q
    rw [hget, hget'] at hnames
    exact absurd hsame.symm (hnames hq' hq)

/-- Where a name was free at first and is held at the end, somebody has committed it. -/
theorem committed_of_held (hacts : ∀ act ∈ acts, act.IsCreate) {now : Instant}
    (hfree : w.store.activeHost name.text now = none)
    (hheld : ((opened w).play (moves acts)).world.store.activeHost name.text now ≠ none) : Committed w acts name := by
  obtain ⟨hunbroken, hlast⟩ := (opened w).unbroken_deeds (moves acts)
  rw [← hlast] at hheld
  obtain ⟨deed, hdeed, hkey⟩ := hunbroken.exists_bump_of_activeHost hfree hheld
  obtain ⟨k, turn, q, name', -, hcommit, hq, hparse, hsame, -⟩ := exists_commit_of_bump hacts hdeed hkey
  obtain rfl := HostName.text_injective (ReadKey.host.inj hsame)
  exact ⟨k, turn, q, hcommit, hq, hparse⟩

/-- A request that qualifies for a free name succeeds, or somebody has committed the name. -/
theorem ok_or_committed (hacts : ∀ act ∈ acts, act.IsCreate) (hw : w.store.Orderly)
    (hq : (requested acts)[number]? = some q) (hqualifies : q.Qualifies w.store name)
    (hfree : w.store.activeHost name.text q.context.now = none)
    (hdone : ((opened w).play (moves acts)).requests[number]? = some (.done result)) :
    (∃ response, result = .ok response) ∨ Committed w acts name := by
  obtain ⟨u, hu, hchronicle⟩ := exists_chronicle (peers_admits hacts) hq hdone
  rcases hchronicle.decides hacts hw hu hqualifies with hok | ⟨-, -, -, hheld⟩ | ⟨-, hcommitted⟩
  · exact .inl hok
  · exact .inr (committed_of_held hacts hfree hheld)
  · exact .inr hcommitted

/-- Where somebody contends for a free name and has come to a result, somebody has committed the name. -/
theorem committed_of_contends (hacts : ∀ act ∈ acts, act.IsCreate) (hw : w.store.Orderly)
    (hfree : w.store.hostsNamed name.text = []) (h : Contends acts w.store name number)
    (hdone : ((opened w).play (moves acts)).requests[number]? = some (.done result)) : Committed w acts name := by
  obtain ⟨q, hq, hreal, hqualifies⟩ := h
  have hnobody : w.store.activeHost name.text q.context.now = none := by rw [Store.activeHost, hfree]; rfl
  rcases ok_or_committed hacts hw hq hqualifies hnobody hdone with ⟨response, rfl⟩ | hcommitted
  · obtain ⟨turn, hturn⟩ := exists_commit_of_done Company.peers_grows (peers_admits hacts) hq hreal hdone
    exact ⟨number, turn, q, hturn, hq, hqualifies.parse_eq⟩
  · exact hcommitted

/-- In every complete run of creates, with no other writer and at least two attempts for each, no request ends in a
fault, and of those that contend for a name under which no row was stored exactly one succeeds; every other is told
that the name is taken. -/
theorem createHost_contested {w : World} (hbuilt : w.store.Built) {acts : List Act}
    (hacts : ∀ act ∈ acts, act.IsCreate) (hbudgets : ∀ q ∈ requested acts, 2 ≤ q.service.maxAttempts)
    (hcomplete : Complete w acts) {name : HostName} (hfree : w.store.hostsNamed name.text = []) :
    let final := (opened w).play (moves acts)
    let Succeeds := fun number : Nat => ∃ response : Response, final.requests[number]? = some (.done (.ok response))
    (∀ (number : Nat) (q : Request) (refusal : Refusal), (requested acts)[number]? = some q →
        final.requests[number]? = some (.done (.error refusal)) → refusal.isTransient = false) ∧
      ((∃ number, Contends acts w.store name number) →
        ∃! winner, Contends acts w.store name winner ∧ Succeeds winner) ∧
      ∀ number, Contends acts w.store name number → ¬ Succeeds number →
        final.requests[number]? = some (.done (.error (.createContention name.text))) ∨
          final.requests[number]? = some (.done (.error (.alreadyExistsForThisClient name.text))) := by
  intro final Succeeds
  have hadmits := peers_admits hacts
  refine ⟨fun number q refusal hq hdone => ?_, ?_, ?_⟩
  · obtain ⟨u, -, hchronicle⟩ := exists_chronicle hadmits hq hdone
    exact hchronicle.lasting hacts (hbudgets q (List.mem_of_getElem? hq)) refusal rfl
  · rintro ⟨number, hcontends⟩
    obtain ⟨_, hrequested, -⟩ := id hcontends
    obtain ⟨_, hdone⟩ := hcomplete.exists_result hrequested
    obtain ⟨winner, turn, q, hturn, hq, hname⟩ := committed_of_contends hacts hbuilt.orderly hfree hcontends hdone
    obtain ⟨hwinner, hsucceeds⟩ := contends_of_mem_commits hacts hbuilt.orderly hturn hq hname
    obtain ⟨result, hresult⟩ := hcomplete.exists_result hq
    obtain ⟨response, rfl⟩ := hsucceeds result hresult
    refine ⟨winner, ⟨hwinner, response, hresult⟩, ?_⟩
    rintro other ⟨⟨q', hq', hreal, hqualifies⟩, response', hdone'⟩
    obtain ⟨turn', hturn'⟩ := exists_commit_of_done Company.peers_grows hadmits hq' hreal hdone'
    exact eq_of_mem_commits hturn' hturn hq' hq (hqualifies.parse_eq.trans hname.symm)
  · rintro number ⟨q, hq, -, hqualifies⟩ hfails
    obtain ⟨result, hresult⟩ := hcomplete.exists_result hq
    obtain ⟨u, hu, hchronicle⟩ := exists_chronicle hadmits hq hresult
    have hlasting := hchronicle.lasting hacts (hbudgets q (List.mem_of_getElem? hq))
    rcases hchronicle.decides hacts hbuilt.orderly hu hqualifies with
      ⟨response, rfl⟩ | ⟨refusal, rfl, rfl | rfl, -⟩ | ⟨⟨fault, rfl⟩, -⟩
    · exact absurd ⟨response, hresult⟩ hfails
    · exact .inr hresult
    · exact .inl hresult
    · cases hlasting _ rfl

/-- Two requests that take their turns in rounds. -/
theorem isCreate_of_mem_rounds (q q' : Request) (count : Nat) :
    ∀ act ∈ [Act.submit q, .submit q'] ++ rounds count, act.IsCreate := by
  intro act hact
  rcases List.mem_append.1 hact with hsubmit | hturn
  · rcases List.mem_pair.1 hsubmit with rfl | rfl
    · trivial
    · trivial
  · obtain ⟨round, hround, hmem⟩ := List.mem_flatten.1 hturn
    rw [List.eq_of_mem_replicate hround] at hmem
    rcases List.mem_pair.1 hmem with rfl | rfl
    · exact fun _ => rfl
    · exact fun _ => rfl

/-- Two clients ask for one host at the same time. -/
def contenders : List Act :=
  [.submit (glued ⟨"TheRegistrar"⟩ [⟨.v4, "192.0.2.1"⟩]), .submit (glued ⟨"NewRegistrar"⟩ [⟨.v4, "192.0.2.2"⟩])]
    ++ rounds 26

def contested : HostName := ⟨"ns1.example.tld", by decide +kernel⟩

theorem createHost_contested_contenders :
    delegated.Built ∧ (∀ act ∈ contenders, act.IsCreate) ∧ (∀ q ∈ requested contenders, 2 ≤ q.service.maxAttempts) ∧
      Complete { store := delegated } contenders ∧ delegated.hostsNamed contested.text = [] ∧
      Contends contenders delegated contested 0 ∧ Contends contenders delegated contested 1 ∧
      let final := (opened { store := delegated }).play (moves contenders)
      ∃! winner, Contends contenders delegated contested winner ∧
        ∃ response, final.requests[winner]? = some (.done (.ok response)) := by
  have hacts : ∀ act ∈ contenders, act.IsCreate := isCreate_of_mem_rounds _ _ 26
  have hbudgets : ∀ q ∈ requested contenders, 2 ≤ q.service.maxAttempts := by decide +kernel
  have hcomplete : Complete { store := delegated } contenders := by
    intro work hwork
    have hdone : ∀ work ∈ ((opened { store := delegated }).play (moves contenders)).requests,
        work.value?.isSome = true := by decide +kernel
    obtain ⟨result, hresult⟩ := Option.isSome_iff_exists.1 (hdone work hwork)
    exact ⟨result, Work.value?_eq_some.1 hresult⟩
  have hfree : delegated.hostsNamed contested.text = [] := by decide +kernel
  have hqualifies (client : ClientId) (address : String)
      (hnone : (glued client [⟨.v4, address⟩]).objection? delegated = none) :
      (glued client [⟨.v4, address⟩]).Qualifies delegated contested :=
    (qualifies_of_objection? hnone contested.parse_text).1
  have hfirst : Contends contenders delegated contested 0 :=
    ⟨_, rfl, rfl, hqualifies ⟨"TheRegistrar"⟩ "192.0.2.1" (by decide +kernel)⟩
  have hsecond : Contends contenders delegated contested 1 :=
    ⟨_, rfl, rfl, hqualifies ⟨"NewRegistrar"⟩ "192.0.2.2" (by decide +kernel)⟩
  obtain ⟨-, hwinner, -⟩ :=
    createHost_contested (w := { store := delegated }) built_delegated hacts hbudgets hcomplete hfree
  exact ⟨built_delegated, hacts, hbudgets, hcomplete, hfree, hfirst, hsecond, hwinner ⟨0, hfirst⟩⟩

end Bailiwick.Create
