import Bailiwick.Proofs.Create.RequestTransaction

/-!
What the attempts of a create read. An attempt first asks who holds the name and then, if nobody does, for the
superordinate domain. It conflicts only if a row of its name is stored or the row of its domain is put in the
meantime, since these are the only keys that it notes.
-/

namespace Bailiwick

open Deed Transaction

/-- Of two turns of unbroken deeds the later meets a store that may follow what the earlier leaves. -/
theorem Unbroken.later_of_mem {w : World} {before after : List Deed} (h : Unbroken w (before ++ after)) {k k' : Nat}
    {earlier later : Turn} (hearlier : Deed.turn k earlier ∈ before) (hlater : Deed.turn k' later ∈ after) :
    earlier.after.store.Later later.world.store := by
  obtain ⟨front, between, rfl⟩ := List.append_of_mem hearlier
  obtain ⟨between', back, rfl⟩ := List.append_of_mem hlater
  rw [List.append_assoc, List.cons_append, ← List.append_assoc between] at h
  obtain ⟨-, -, hrest⟩ := unbroken_append.1 h
  rw [hrest.world_eq]
  exact (unbroken_append.1 hrest).1.later

namespace Create

variable {c : Company} {number : Nat} {q : Request} {w u now : World} {client : ClientId} {name : HostName}
  {zone : Option String} {placement : Placement} {addresses : List IpAddress} {deeds : List Deed}

/-- A key that a create reads from the store: its own name, or the name of its domain. -/
def Reads (name : HostName) (domainName : Option String) (key : ReadKey) : Prop :=
  key = .host name.text ∨ ∃ d, domainName = some d ∧ key = .domain d

theorem run_insertion (name : HostName) (addresses : List IpAddress) (client : ClientId) (instant : Instant)
    (correlation : Uuid) (ids : FreshIds) (key : Option DomainKey) (a : Attempt) :
    ∃ e, (insertion name addresses client instant correlation ids key).run a
      = .done (.ok (Created.new ids name addresses key client instant correlation), e) := by
  cases key with
  | none => exact ⟨_, rfl⟩
  | some key => exact ⟨_, rfl⟩

/-- Whatever it finds, the body of a create asks for the holder of the name first and then at most for the domain, and
comes to a host of the name that has a domain where one was asked for. -/
theorem keeps_body (addresses : List IpAddress) (domainName : Option String) (client : ClientId) (instant : Instant)
    (correlation : Uuid) (ids : FreshIds) :
    ((body name addresses domainName client instant correlation ids).run .empty).Keeps
      (fun op => op = .loadHost .empty name instant ∨ ∃ a d, domainName = some d ∧ op = .loadDomain a d instant)
      fun reached => ∀ created, reached.1 = .ok created → ∃ key : Option DomainKey,
        key.isSome = domainName.isSome ∧ created = Created.new ids name addresses key client instant correlation := by
  rw [body_eq]
  refine ⟨.inl rfl, ?_⟩
  rintro ⟨holder, a⟩
  cases holder with
  | some host =>
      intro created hcreated
      cases hcreated
  | none =>
      cases domainName with
      | none =>
          obtain ⟨e, hrun⟩ := run_insertion name addresses client instant correlation ids none a
          simp only [insertionFor, hrun]
          exact fun created hcreated => ⟨none, rfl, (Except.ok.inj hcreated).symm⟩
      | some d =>
          refine ⟨.inr ⟨a, d, rfl, rfl⟩, ?_⟩
          rintro ⟨loaded, a⟩
          simp only [insertionUnder]
          cases checkSuperordinate d loaded with
          | error refusal =>
              intro created hcreated
              cases hcreated
          | ok domain =>
              obtain ⟨e, hrun⟩ := run_insertion name addresses client instant correlation ids
                (some domain.key) a
              simp only [hrun]
              exact fun created hcreated => ⟨some domain.key, rfl, (Except.ok.inj hcreated).symm⟩

/-- What an attempt of a create comes to, given the turn by which it asked for the holder of the name and a turn by
which it asked for the domain, if there was one to ask for. -/
inductive Decided (q : Request) (client : ClientId) (name : HostName) (placement : Placement)
    (addresses : List IpAddress) (ordinal : Nat) (first read : Turn) : Except Refusal Created → Prop where
  | held {host : Host} (h : first.world.store.activeHost name.text q.context.now = some host) :
      Decided q client name placement addresses ordinal first read (.error (.createContention name.text))
  | free (h : first.world.store.activeHost name.text q.context.now = none) :
      Decided q client name placement addresses ordinal first read
        ((superordinateOn read.world.store (placement.superordinate?.map Domain.name) q.context.now).map fun key =>
          Created.new (q.ids ordinal) name addresses key client q.context.now q.context.correlation)

/-- An attempt that has found its name free decides on the domain that it reads next, or without reading any. -/
theorem decides_of_insertionFor {domainName : Option String} {instant : Instant} {correlation : Uuid} {ids : FreshIds}
    {a e : Attempt} {rest : List Deed} {reached : Except Refusal Created}
    (h : ((insertionFor name addresses client instant correlation ids domainName).run a).Takes number rest
      (.done (reached, e))) (first : Turn) :
    ∃ read, (read = first ∨ Deed.turn number read ∈ rest) ∧
      reached = (superordinateOn read.world.store domainName instant).map fun key =>
        Created.new ids name addresses key client instant correlation := by
  cases domainName with
  | none =>
      obtain ⟨e', hrun⟩ := run_insertion name addresses client instant correlation ids none a
      rw [insertionFor, hrun] at h
      exact ⟨first, .inl rfl, congrArg Prod.fst (Work.done.inj h.of_done.1)⟩
  | some d =>
      rw [insertionFor] at h
      obtain ⟨asides, v, surroundings, rest, rfl, -, hrest⟩ := h.exists_turn
      refine ⟨⟨v, surroundings, .loadDomain a d instant⟩, .inr (List.mem_append_right asides List.mem_cons_self), ?_⟩
      simp only [World.perform, Attempt.loadDomain, insertionUnder] at hrest
      rw [superordinateOn]
      cases hchecked : checkSuperordinate d (v.store.activeDomain d instant) with
      | error refusal =>
          rw [hchecked] at hrest
          exact congrArg Prod.fst (Work.done.inj hrest.of_done.1)
      | ok domain =>
          rw [hchecked] at hrest
          obtain ⟨e', hrun⟩ := run_insertion name addresses client instant correlation ids
            (some domain.key) (a.note (.domain d) (v.store.domainVersion d))
          simp only [hrun] at hrest
          exact congrArg Prod.fst (Work.done.inj hrest.of_done.1)

/-- An attempt of a create begins with the question who holds the name. -/
theorem exists_first (trial : Trial number (q.attempt client name placement addresses)) :
    ∃ asides first since read, trial.running = asides ++ .turn number first :: since ∧ Asides number asides ∧
      first.op = .loadHost .empty name q.context.now ∧ Deed.turn number read ∈ trial.running ∧
      Decided q client name placement addresses trial.ordinal first read trial.result := by
  have hruns := trial.runs
  rw [Request.attempt, body_eq] at hruns
  obtain ⟨asides, v, surroundings, since, hrunning, hasides, hrest⟩ := hruns.exists_turn
  let first : Turn := ⟨v, surroundings, .loadHost .empty name q.context.now⟩
  have hfirst : Deed.turn number first ∈ trial.running := by
    rw [hrunning]
    exact List.mem_append_right asides List.mem_cons_self
  have hown : Attempt.empty.ownHost? name q.context.now = none := rfl
  simp only [World.perform, Attempt.loadHost, hown] at hrest
  cases hfound : v.store.activeHost name.text q.context.now with
  | some host =>
      rw [hfound] at hrest
      have hresult : trial.result = .error (.createContention name.text) :=
        congrArg Prod.fst (Work.done.inj hrest.of_done.1)
      rw [hresult]
      exact ⟨asides, first, since, first, hrunning, hasides, rfl, hfirst, .held hfound⟩
  | none =>
      rw [hfound] at hrest
      obtain ⟨read, hread, hresult⟩ := decides_of_insertionFor hrest first
      rw [hresult]
      refine ⟨asides, first, since, read, hrunning, hasides, rfl, ?_, .free hfound⟩
      rcases hread with rfl | hlater
      · exact hfirst
      · rw [hrunning]
        exact List.mem_append_right asides (List.mem_cons_of_mem _ hlater)

/-- An attempt of a create conflicts only where, after its first question, a row of its name was stored or the row of
its domain was put. -/
theorem exists_bump_of_conflicts {trial : Trial number (q.attempt client name placement addresses)}
    (h : trial.Conflicts) {asides since : List Deed} {first : Turn}
    (hrunning : trial.running = asides ++ .turn number first :: since) (hasides : Asides number asides) :
    ∃ deed ∈ since, ∃ key ∈ deed.bumps, Reads name (placement.superordinate?.map Domain.name) key := by
  obtain ⟨-, key, before, read, after, hread, deed, hdeed, hkey⟩ := trial.conflicts_iff.1 h
  have hturn : Deed.turn number read ∈ trial.running := by
    rw [hread.deeds_eq]
    exact List.mem_append_right before List.mem_cons_self
  have hreads : Reads name (placement.superordinate?.map Domain.name) key := by
    have hshared := hread.shared
    rcases (trial.runs.keeps (keeps_body addresses _ client _ _ _)).1 read hturn with hop | ⟨a, d, hdomain, hop⟩
    · rw [hop] at hshared
      exact .inl (Option.some.inj hshared).symm
    · rw [hop] at hshared
      exact .inr ⟨d, hdomain, (Option.some.inj hshared).symm⟩
  refine ⟨deed, ?_, key, hkey, hreads⟩
  rcases hasides.split_unique (hrunning.symm.trans hread.deeds_eq) with ⟨-, -, rfl⟩ | ⟨between, -, rfl⟩
  · exact hdeed
  · exact List.mem_append_right between (List.mem_cons_of_mem _ hdeed)

/-- A turn of a request among its trials is one of the turns of the run. -/
theorem mem_deeds_of_mem_running {opening rest : List Deed}
    {trials : List (Trial number (q.attempt client name placement addresses))}
    (hdeeds : deeds = opening ++ trials.flatMap Trial.deeds ++ rest)
    {trial : Trial number (q.attempt client name placement addresses)} (htrial : trial ∈ trials) {deed : Deed}
    (hdeed : deed ∈ trial.running) : deed ∈ deeds := by
  rw [hdeeds]
  refine List.mem_append_left _ (List.mem_append_right _ (List.mem_flatMap.2 ⟨trial, htrial, ?_⟩))
  exact List.mem_append_left _ (List.mem_append_left _ hdeed)

/-- What a request has done by the time that it came to a result: it was refused before its transaction, found the
store out of reach, or its attempts can be accounted for. -/
inductive Chronicle (c : Company) (number : Nat) (q : Request) (u now : World) (deeds : List Deed) :
    Except Refusal Response → Prop where
  | objected {v : World} {refusal : Refusal} {trail : Trail} (hidle : Idle number deeds)
      (h : Objected c q u v refusal trail) (hnow : c.changes v now) : Chronicle c number q u now deeds (.error refusal)
  | unopened {fault : Fault} (hidle : Idle number deeds) (h : c.Outage .transaction fault) :
      Chronicle c number q u now deeds (.error (.fault fault))
  | accounted {v : World} {client : ClientId} {name : HostName} {zone : Option String} {placement : Placement}
      {addresses : List IpAddress} {reached : Except Refusal Created} {applied : List Store.Write}
      (opening : List Deed) (trials : List (Trial number (q.attempt client name placement addresses)))
      (rest : List Deed) (hdeeds : deeds = opening ++ trials.flatMap Trial.deeds ++ rest)
      (hopening : Idle number opening) (hrest : Idle number rest)
      (hpassed : Passed c q u v client name zone placement addresses) (hnow : c.changes v now)
      (haccount : Account q.mode (max 1 q.service.maxAttempts) trials reached applied) :
      Chronicle c number q u now deeds (reached.map fun created => .ofCreated created q.context.dryRun)

variable {acts : List Act} {result : Except Refusal Response}

/-- A journey is a chronicle, also of what was done before it began. -/
theorem Journey.chronicle {earlier : List Deed} (h : Journey c number q u u deeds result)
    (hearlier : Asides number earlier) (hu : Unbroken u deeds) (hborne : c.Bears number u deeds) :
    Chronicle c number q u (u.through deeds) (earlier ++ deeds) result := by
  cases h with
  | objected hidle h hnow => exact .objected (hearlier.idle.append hidle) h hnow
  | transacted before during after hdeeds hbefore hafter hpassed htakes =>
      subst hdeeds
      rw [List.append_assoc] at hu hborne ⊢
      obtain ⟨-, hrest⟩ := unbroken_append.1 hu
      obtain ⟨-, hborne⟩ := Company.bears_append.1 hborne
      have hnow := hborne.changes
      rw [← World.through_append] at hnow
      rcases exists_account htakes (unbroken_append.1 hrest).1 with
        ⟨hidle, opened, fault, hopened, -, houtage, rfl⟩ | ⟨opening, trials, rest, rfl, hopening, hrest', haccount⟩
      · have hmeets := hborne.meets (List.mem_append_left after hopened)
        refine .unopened ?_ ⟨opened.surroundings, hmeets, houtage⟩
        exact hearlier.idle.append (hbefore.append (hidle.append hafter))
      · refine .accounted (earlier ++ (before ++ opening)) trials (rest ++ after) ?_
          (hearlier.idle.append (hbefore.append hopening)) (hrest'.append hafter) hpassed hnow haccount
        simp only [List.append_assoc]

/-- A request that has come to a result since it was submitted has its chronicle. -/
theorem chronicle_since {r : Registry (Except Refusal Response)} {rest : List (Move (Except Refusal Response))}
    (hp : r.requests[number]? = some q.work) (hdone : (r.play rest).requests[number]? = some (.done result))
    (hborne : c.Bears number r.world (r.deeds rest)) {earlier : List Deed} (hearlier : Asides number earlier) :
    Chronicle c number q r.world (r.play rest).world (earlier ++ r.deeds rest) result := by
  obtain ⟨p, hp', htakes⟩ := Registry.takes_play rest hp
  obtain rfl := Option.some.inj (hp'.symm.trans hdone)
  obtain ⟨hunbroken, hlast⟩ := r.unbroken_deeds rest
  rw [← hlast]
  exact (journey_work htakes hunbroken hborne).chronicle hearlier hunbroken hborne

/-- In a run every request that has come to a result has its chronicle. -/
theorem exists_chronicle (hacts : ∀ act ∈ acts, c.Admits act.move) (hq : (requested acts)[number]? = some q)
    (hdone : ((opened w).play (moves acts)).requests[number]? = some (.done result)) :
    ∃ u, c.changes w u ∧
      Chronicle c number q u ((opened w).play (moves acts)).world ((opened w).deeds (moves acts)) result := by
  obtain ⟨here, rest, rfl, hp, hnone⟩ := exists_submission (r := opened w) hq
  have hnumber : (opened w).requests.length + number = number := Nat.zero_add number
  rw [hnumber] at hp hnone
  rw [moves_append, Registry.play_append] at hdone ⊢
  rw [Registry.deeds_append]
  have hallowed := Registry.allows_of_mem_deeds (r := (opened w).play (moves here)) (admits_moves fun act hact =>
    hacts act (List.mem_append_right here hact))
  have hborne : c.Bears number ((opened w).play (moves here)).world (((opened w).play (moves here)).deeds (moves rest)) :=
    (((opened w).play (moves here)).unbroken_deeds (moves rest)).1.bears hallowed
  -- Before it was submitted the request had no turn.
  have hearlier : Asides number ((opened w).deeds (moves here)) := fun turn hturn =>
    hnone turn (Registry.mem_deeds.1 hturn)
  refine ⟨((opened w).play (moves here)).world, ?_, chronicle_since hp hdone hborne hearlier⟩
  exact Registry.changes_play (r := opened w) (admits_moves fun act hact => hacts act (List.mem_append_left rest hact))

end Create

end Bailiwick
