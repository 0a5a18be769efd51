import Bailiwick.Proofs.Create.Contest

/-!
Creates of different names do not get into each other's way. An attempt conflicts only where a row of its own name was
stored or the row of its domain was put since its first question; whatever else lands in between, it commits. Hosts
that are linked to one domain at the same time are all listed there in the end.
-/

namespace Bailiwick.Create

open Deed Transaction

variable {acts : List Act} {w u : World} {number : Nat} {q : Request} {client : ClientId} {name : HostName}
  {zone : Option String} {placement : Placement} {addresses : List IpAddress} {result : Except Refusal Response}

/-- Since the first question of an attempt nobody has stored a row under its name or put the row of its domain. -/
def Undisturbed (trial : Trial number (q.attempt client name placement addresses)) : Prop :=
  ∃ asides first since, trial.running = asides ++ .turn number first :: since ∧ Asides number asides ∧
    ∀ deed ∈ since, ∀ key ∈ deed.bumps, ¬ Reads name (placement.superordinate?.map Domain.name) key

theorem Undisturbed.not_conflicts {trial : Trial number (q.attempt client name placement addresses)}
    (h : Undisturbed trial) : ¬ trial.Conflicts := by
  obtain ⟨asides, first, since, hrunning, hasides, hquiet⟩ := h
  intro hconflicts
  obtain ⟨deed, hdeed, key, hkey, hreads⟩ := exists_bump_of_conflicts hconflicts hrunning hasides
  exact hquiet deed hdeed key hkey hreads

/-- No attempt of a request conflicts unless it was disturbed. An attempt that was not disturbed and whose body comes
to a value commits, if the request is no dry run. -/
inductive Unhindered (number : Nat) (q : Request) (w : World) (deeds : List Deed) : Prop where
  | unattempted (hidle : Idle number deeds)
  | attempted {v : World} {client : ClientId} {name : HostName} {zone : Option String} {placement : Placement}
      {addresses : List IpAddress} (opening : List Deed)
      (trials : List (Trial number (q.attempt client name placement addresses))) (rest : List Deed)
      (hdeeds : deeds = opening ++ trials.flatMap Trial.deeds ++ rest) (hopening : Idle number opening)
      (hrest : Idle number rest) (hpassed : Passed .anyone q w v client name zone placement addresses)
      (h : ∀ trial ∈ trials, Undisturbed trial → ¬ trial.Conflicts ∧
        (q.context.dryRun = false → (∃ created, trial.result = .ok created) → trial.Commits))

theorem mode_of_real (hreal : q.context.dryRun = false) : q.mode = .commit := by
  rw [Request.mode, hreal]
  rfl

theorem Chronicle.unhindered {now : World} {deeds : List Deed} (h : Chronicle .anyone number q u now deeds result) :
    Unhindered number q u deeds := by
  cases h with
  | objected hidle _ _ => exact .unattempted hidle
  | unopened hidle _ => exact .unattempted hidle
  | accounted opening trials rest hdeeds hopening hrest hpassed _ haccount =>
      refine .attempted opening trials rest hdeeds hopening hrest hpassed fun trial htrial hundisturbed => ?_
      have hnever := hundisturbed.not_conflicts
      exact ⟨hnever, fun hreal hok => haccount.commits htrial (mode_of_real hreal) hok hnever⟩

/-- A run in which a request goes on alone until it is finished. -/
def finishing (acts : List Act) (number count : Nat) : List Act := acts ++ List.replicate count (.turn number .calm)

theorem requested_finishing (hq : (requested acts)[number]? = some q) (count : Nat) :
    (requested (finishing acts number count))[number]? = some q := by
  have happend : requested (finishing acts number count)
      = requested acts ++ requested (List.replicate count (.turn number .calm)) := List.filterMap_append
  rw [happend, List.getElem?_append_left (List.getElem?_eq_some_iff.1 hq).1]
  exact hq

/-- A request is finished by turns enough, and by none if it is finished already. -/
theorem exists_finishing (w : World) (hq : (requested acts)[number]? = some q) :
    ∃ count, ((∃ result, ((opened w).play (moves acts)).requests[number]? = some (.done result)) → count = 0) ∧
      ∃ result, ((opened w).play (moves (finishing acts number count))).requests[number]? = some (.done result) := by
  obtain ⟨p, -, hp, -⟩ := ensures_opened Company.anyone_grows (anyone_admits acts) (w := w) hq
  cases p with
  | done result =>
      refine ⟨0, fun _ => rfl, result, ?_⟩
      rw [finishing, List.replicate_zero, List.append_nil]
      exact hp
  | step op next =>
      obtain ⟨count, result, hdone⟩ := Registry.exists_done .calm hp
      refine ⟨count, ?_, result, ?_⟩
      · rintro ⟨reached, hreached⟩
        cases hp.symm.trans hreached
      · rw [finishing, moves_append, Registry.play_append, moves, moves, List.map_replicate]
        exact hdone

/-- A host of a name is listed in a store by the row with the key of the domain above it, which is but for its hosts the
row that a former store has with that key. Where no other row has the key it is the row of the domain. -/
def Listed (former s : Store) (name : HostName) (zone : String) (domain : Domain) : Prop :=
  ∃ kept, s.rowOf domain.key = some kept ∧ name.text ∈ kept.subordinateHosts ∧
    (former.rowOf domain.key).map Domain.bare = some kept.bare ∧
    (former.domains.rows.filter (fun d => d.key = domain.key) = [domain] →
      s.domains.get? (superordinateName name zone) = some kept)

theorem keepsRows_turn (turn : Turn) : turn.world.store.KeepsRows turn.after.store := by
  rw [turn.store_after]
  exact Store.keepsRows_applyAll _ _

section Listed

variable (hacts : ∀ act ∈ acts, act.IsCreate)

include hacts

/-- Creates alone make no edit that could change the row of a key. -/
theorem keepsRows_of_mem_edits (s : Store) (e : Store.Edit) (h : (s, e) ∈ (opened w).edits (moves acts)) :
    s.KeepsRows (s.edit e) :=
  absurd (Registry.edit_mem_of_mem_edits h) (edit_notMem_moves hacts e)

theorem keepsRows_before {turn : Turn} (hturn : (number, turn) ∈ (opened w).turns (moves acts)) :
    w.store.KeepsRows turn.world.store :=
  Registry.rel_of_mem_stores Store.KeepsRows.refl Store.KeepsRows.trans keepsRows_turn (keepsRows_of_mem_edits hacts)
    (Registry.mem_stores_of_mem_turns hturn)

theorem keepsRows_behind {turn : Turn} (hturn : (number, turn) ∈ (opened w).turns (moves acts)) :
    turn.after.store.KeepsRows ((opened w).play (moves acts)).world.store :=
  Registry.rel_play_of_mem_turns Store.KeepsRows.refl Store.KeepsRows.trans keepsRows_turn
    (keepsRows_of_mem_edits hacts) hturn

/-- Of creates alone each that has committed is listed in the end by the row with the key of its domain, which is else
as it was. Where no other row has that key it is the row of the domain. -/
theorem listed_of_mem_commits (hw : w.store.Orderly) {turn : Turn}
    (hturn : (number, turn) ∈ (opened w).commits (moves acts)) (hq : (requested acts)[number]? = some q)
    (hname : HostName.parse q.command.hostName = .ok name) {zone : String} (hzone : w.store.zoneOf name = some zone)
    {domain : Domain} (hrow : w.store.domains.get? (superordinateName name zone) = some domain) :
    Listed w.store ((opened w).play (moves acts)).world.store name zone domain := by
  have hadmits := peers_admits hacts
  have hmem := (Registry.mem_commits.1 hturn).1
  obtain ⟨q', u, client, named, zone', placement, addresses, attempt, created, hq', hu, hmakes, -⟩ :=
    makes_of_mem_commits Company.peers_grows ⟨.calm, fun _ => rfl⟩ hadmits hturn
  obtain rfl := Option.some.inj (hq'.symm.trans hq)
  obtain rfl : named = name := Except.ok.inj (hmakes.parse_eq.symm.trans hname)
  obtain rfl : zone' = some zone := by rw [← hmakes.zoneOf_eq, hu.2.zoneOf_eq, hzone]
  have hbelongs := hmakes.belongs Company.peers_grows (hu.1.orderly hw)
  cases hbelongs with
  | @subordinate _ present _ hfound _ hkey _ =>
      rw [hmakes.name_eq] at hfound
      have hget := (Option.filter_eq_some_iff.1 hfound).1
      have hground := (Registry.changes_of_mem_turns (r := opened w) (admits_moves hadmits) hmem).2
      have hsameKey : present.key = domain.key := Domain.key_of_bare (hground.bare_eq hrow hget)
      -- The row with the key has been there from the beginning; the commit finds it and links the host to it.
      obtain ⟨first, hfirst⟩ := Option.isSome_iff_exists.1 (Store.isSome_rowOf (Table.mem_rows_of_get? hrow))
      obtain ⟨met, hmet, hbare, -⟩ := keepsRows_before hacts hmem _ _ hfirst
      have hgained : turn.after.store.rowOf domain.key = some (met.addSubordinate named.text) := by
        rw [hmakes.store_after, Store.rowOf, domains_applyAll_writes, hkey, hmakes.name_eq, hsameKey]
        refine (turn.world.store.rowOf_linkHost domain.key named.text domain.key).trans ?_
        rw [hmet, Option.map_some, if_pos rfl]
      obtain ⟨kept, hkept, hkeptBare, hhosts⟩ := keepsRows_behind hacts hmem _ _ hgained
      refine ⟨kept, hkept, hhosts _ (met.mem_addSubordinate named.text), ?_, fun honly => ?_⟩
      · rw [hfirst, Option.map_some, hkeptBare, Domain.bare_addSubordinate, hbare]
      · have hend := (Registry.changes_play (r := opened w) (admits_moves hadmits)).2
        obtain ⟨last, hlast, hsame⟩ := Option.map_eq_some_iff.1 ((hend.domains _).trans (congrArg _ hrow))
        have hlastKey : last.key = domain.key := Domain.key_of_bare hsame
        have hlastOnly := Table.filter_eq_singleton_of_map_eq hend.keys honly (Table.mem_rows_of_get? hlast) hlastKey
        obtain rfl := Option.some.inj (hkept.symm.trans (Store.rowOf_eq_some hlastOnly))
        exact hlast

end Listed

/-- The request with a number commits the first attempt that it makes among some deeds. -/
def CommitsAtOnce (number : Nat) (q : Request) (deeds : List Deed) : Prop :=
  ∃ client name placement addresses opening rest,
    ∃ trial : Trial number (q.attempt client name placement addresses),
      deeds = opening ++ trial.deeds ++ rest ∧ Idle number opening ∧ Idle number rest ∧ trial.ordinal = 1 ∧
        trial.Commits

/-- No other request of a run asks for the name of a request but in a dry run. -/
def AsksAlone (acts : List Act) (number : Nat) (name : HostName) : Prop :=
  ∀ k other, (requested acts)[k]? = some other → other.context.dryRun = false →
    HostName.parse other.command.hostName = .ok name → k = number

/-- Among creates alone a name that only one request asks for is committed by that request alone. -/
theorem eq_of_asksAlone (hacts : ∀ act ∈ acts, act.IsCreate) (hw : w.store.Orderly)
    (halone : AsksAlone acts number name) {k : Nat} {turn : Turn} {other : Request} (hturn : (k, turn) ∈ (opened w).commits (moves acts))
    (hother : (requested acts)[k]? = some other) (hname : HostName.parse other.command.hostName = .ok name) :
    k = number := by
  obtain ⟨⟨q, hq, hreal, hqualifies⟩, -⟩ := contends_of_mem_commits hacts hw hturn hother hname
  exact halone k q hq hreal hqualifies.parse_eq

/-- Among creates alone a request succeeds if there is no objection to it at first and no other asks for its name. -/
theorem ok_of_asksAlone (hacts : ∀ act ∈ acts, act.IsCreate) (hw : w.store.Orderly)
    (hq : (requested acts)[number]? = some q) (hqualifies : q.Qualifies w.store name)
    (hfree : w.store.activeHost name.text q.context.now = none) (halone : AsksAlone acts number name)
    (hdone : ((opened w).play (moves acts)).requests[number]? = some (.done result)) :
    ∃ response, result = .ok response := by
  rcases ok_or_committed hacts hw hq hqualifies hfree hdone with hok | ⟨k, turn, other, hturn, hother, hname⟩
  · exact hok
  · obtain rfl := eq_of_asksAlone hacts hw halone hturn hother hname
    exact (contends_of_mem_commits hacts hw hturn hother hname).2 result hdone

/-- Among creates alone no attempt at a name conflicts that only one request asks for. -/
theorem not_conflicts_of_asksAlone (hacts : ∀ act ∈ acts, act.IsCreate) (hw : w.store.Orderly)
    (halone : AsksAlone acts number name) {trial : Trial number (q.attempt client name placement addresses)}
    (hrunning : ∀ deed ∈ trial.running, deed ∈ (opened w).deeds (moves acts)) : ¬ trial.Conflicts := by
  intro hconflicts
  obtain ⟨k, turn, other, hturn, hcommit, hother, hname, -⟩ := exists_commit_of_conflicts hacts hrunning hconflicts
  obtain rfl := eq_of_asksAlone hacts hw halone hcommit hother hname
  have hcommits := (Registry.mem_commits.1 hcommit).2
  rw [trial.commits_eq_false_of_mem_running hturn] at hcommits
  cases hcommits

theorem Chronicle.commitsAtOnce (hacts : ∀ act ∈ acts, act.IsCreate) (hw : w.store.Orderly)
    (hreal : q.context.dryRun = false) (hname : HostName.parse q.command.hostName = .ok name)
    (halone : AsksAlone acts number name) {now : World} {response : Response}
    (h : Chronicle .peers number q u now ((opened w).deeds (moves acts)) result) (hok : result = .ok response) :
    CommitsAtOnce number q ((opened w).deeds (moves acts)) := by
  cases h with
  | objected _ _ _ => cases hok
  | unopened _ _ => cases hok
  | @accounted _ _ named _ _ _ _ _ opening trials rest hdeeds hopening hrest hpassed _ haccount =>
      obtain rfl : named = name := Except.ok.inj (hpassed.parse_eq.symm.trans hname)
      have hnever : ∀ trial ∈ trials, ¬ trial.Conflicts := fun trial htrial =>
        not_conflicts_of_asksAlone hacts hw halone fun deed => mem_deeds_of_mem_running hdeeds htrial
      rcases haccount.outcome with ⟨earlier, last, rfl, hearlier, -, rfl, -⟩ | ⟨-, -, rfl, -⟩
      · -- Every attempt but the last has conflicted, so the last is the first.
        cases earlier with
        | cons first more =>
            exact absurd (hearlier first List.mem_cons_self) (hnever first List.mem_cons_self)
        | nil =>
            have hlast : last ∈ [] ++ [last] := List.mem_singleton_self last
            have hvalue : ∃ created, last.result = .ok created := by
              cases hresult : last.result with
              | ok created => exact ⟨created, rfl⟩
              | error refusal =>
                  rw [hresult] at hok
                  cases hok
            have hordinal : last.ordinal = 1 := List.head_eq_of_cons_eq haccount.ordinals
            refine ⟨_, _, _, _, opening, rest, last, ?_, hopening, hrest, hordinal, ?_⟩
            · rw [hdeeds, List.nil_append, List.flatMap_singleton]
            · exact haccount.commits hlast (mode_of_real hreal) hvalue (hnever last hlast)
      · cases hok

/-- In every run of creates, edits and turns in any order no attempt of a create conflicts in which nobody has stored a
row under its name or put the row of its domain since its first question; if its body comes to a value and it is no dry
run, it commits. This holds of a request that is finished, and of one that is not finished when it goes on alone. With
no other writer a create to which there is no objection at first, and whose name no other asks for, commits its first
attempt, whatever number of attempts it may make, and is listed in the end by the row with the key of its domain. -/
theorem createHost_independent (w : World) (acts : List Act) :
    (∀ number q, (requested acts)[number]? = some q → ∃ count u,
      ((∃ result, ((opened w).play (moves acts)).requests[number]? = some (.done result)) → count = 0) ∧
      (∃ result, ((opened w).play (moves (finishing acts number count))).requests[number]? = some (.done result)) ∧
      w.store.Later u.store ∧ Unhindered number q u ((opened w).deeds (moves (finishing acts number count)))) ∧
    (w.store.Built → (∀ act ∈ acts, act.IsCreate) → ∀ number q name, (requested acts)[number]? = some q →
      q.context.dryRun = false → HostName.parse q.command.hostName = .ok name → q.objection? w.store = none →
      AsksAlone acts number name →
      let final := (opened w).play (moves acts)
      ∀ result, final.requests[number]? = some (.done result) →
        (∃ response, result = .ok response) ∧ CommitsAtOnce number q ((opened w).deeds (moves acts)) ∧
        ∀ zone domain, w.store.zoneOf name = some zone →
          w.store.domains.get? (superordinateName name zone) = some domain →
          Listed w.store final.world.store name zone domain) := by
  refine ⟨fun number q hq => ?_, ?_⟩
  · obtain ⟨count, hcount, result, hdone⟩ := exists_finishing w hq
    obtain ⟨u, hu, hchronicle⟩ := exists_chronicle (anyone_admits _) (requested_finishing hq count) hdone
    exact ⟨count, u, hcount, ⟨result, hdone⟩, hu, hchronicle.unhindered⟩
  · intro hbuilt hacts number q name hq hreal hname hobjection halone final result hdone
    have hadmits := peers_admits hacts
    obtain ⟨hqualifies, hfree⟩ := qualifies_of_objection? hobjection hname
    obtain ⟨response, rfl⟩ := ok_of_asksAlone hacts hbuilt.orderly hq hqualifies hfree halone hdone
    obtain ⟨u, hu, hchronicle⟩ := exists_chronicle hadmits hq hdone
    refine ⟨⟨response, rfl⟩, hchronicle.commitsAtOnce hacts hbuilt.orderly hreal hname halone rfl, ?_⟩
    intro zone domain hzone hrow
    obtain ⟨turn, hturn⟩ := exists_commit_of_done Company.peers_grows hadmits hq hreal hdone
    exact listed_of_mem_commits hacts hbuilt.orderly hturn hq hname hzone hrow

/-- A request that is to be made at one attempt. -/
def Request.once (q : Request) : Request := { q with service := { q.service with maxAttempts := 1 } }

/-- Two clients ask for two hosts under one domain at the same time, each at one attempt. -/
def neighbours : List Act :=
  let other := glued ⟨"NewRegistrar"⟩ [⟨.v4, "192.0.2.2"⟩]
  [.submit (glued ⟨"TheRegistrar"⟩ [⟨.v4, "192.0.2.1"⟩]).once,
      .submit { other.once with command := { other.command with hostName := "ns2.example.tld" } }]
    ++ rounds 26

theorem createHost_independent_neighbours :
    delegated.Built ∧ (∀ act ∈ neighbours, act.IsCreate) ∧ AsksAlone neighbours 0 contested ∧
      ∃ q, (requested neighbours)[0]? = some q ∧ q.service.maxAttempts = 1 ∧ q.context.dryRun = false ∧
        HostName.parse q.command.hostName = .ok contested ∧ q.objection? delegated = none ∧
        CommitsAtOnce 0 q ((opened { store := delegated }).deeds (moves neighbours)) ∧
        ∃ kept, ((opened { store := delegated }).play (moves neighbours)).world.store.domains.get? "example.tld"
          = some kept ∧ contested.text ∈ kept.subordinateHosts := by
  have hacts : ∀ act ∈ neighbours, act.IsCreate := isCreate_of_mem_rounds _ _ 26
  have hnames : (requested neighbours).map (fun q => q.command.hostName) = ["ns1.example.tld", "ns2.example.tld"] := by
    decide +kernel
  have halone : AsksAlone neighbours 0 contested := by
    intro k other hother _ hname
    have hraw : ["ns1.example.tld", "ns2.example.tld"][k]? = some "ns1.example.tld" := by
      rw [← hnames, List.getElem?_map, hother]
      exact congrArg some (HostName.text_of_parse hname).symm
    match k, hraw with
    | 0, _ => rfl
    | 1, hraw => exact absurd hraw (by decide)
  let q := (glued ⟨"TheRegistrar"⟩ [⟨.v4, "192.0.2.1"⟩]).once
  have hq : (requested neighbours)[0]? = some q := rfl
  have hobjection : q.objection? delegated = none := by decide +kernel
  have hdone : ∃ result, ((opened { store := delegated }).play (moves neighbours)).requests[0]?
      = some (.done result) := by
    have hvalue : (((opened { store := delegated }).play (moves neighbours)).requests[0]?.bind Work.value?).isSome
        = true := by decide +kernel
    obtain ⟨result, hresult⟩ := Option.isSome_iff_exists.1 hvalue
    obtain ⟨work, hwork, hwork'⟩ := Option.bind_eq_some_iff.1 hresult
    rw [Work.value?_eq_some.1 hwork'] at hwork
    exact ⟨result, hwork⟩
  obtain ⟨result, hresult⟩ := hdone
  have hzone : delegated.zoneOf contested = some "tld" := by decide +kernel
  have hdomain : superordinateName contested "tld" = "example.tld" := by decide +kernel
  obtain ⟨-, honce, hlisted⟩ := (createHost_independent { store := delegated } neighbours).2 built_delegated hacts 0 q
    contested hq rfl contested.parse_text hobjection halone result hresult
  obtain ⟨kept, -, hmem, -, hget⟩ := hlisted "tld" (.new ⟨.ofNat 7⟩ "example.tld" ⟨"TheRegistrar"⟩ .epoch) hzone
    (by decide +kernel)
  have hkept := hget (by decide +kernel)
  rw [hdomain] at hkept
  exact ⟨built_delegated, hacts, halone, q, hq, rfl, rfl, contested.parse_text, hobjection, honce, kept, hkept, hmem⟩

end Bailiwick.Create
