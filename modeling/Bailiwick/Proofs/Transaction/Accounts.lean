import Bailiwick.Proofs.Transaction.Trials

/-!
The account of a transaction. Whatever others do meanwhile, its attempts follow one another until the body refuses or
an attempt does not conflict, or until the budget is used up, and this decides its result and what it writes.
-/

namespace Bailiwick.Transaction

open Deed

variable {α : Type} {number : Nat} {body : Nat → Body α} {mode : CommitMode} {budget : Nat}

/-- How attempts from a number on, as many as remain of the budget, follow each other and come to a result. -/
inductive Tries (mode : CommitMode) (budget : Nat) :
    (remaining ordinal : Nat) → List (Trial number body) → Except Refusal α → Prop where
  | exhausted (ordinal : Nat) : Tries mode budget 0 ordinal [] (.error (.fault (.retriesExhausted budget)))
  | refused (trial : Trial number body) {remaining : Nat} {refusal : Refusal}
      (hresult : trial.result = .error refusal) (hput : trial.put? = none) :
      Tries mode budget (remaining + 1) trial.ordinal [trial] (.error refusal)
  | rolledBack (trial : Trial number body) {remaining : Nat} {value : α} (hmode : mode = .rollBack)
      (hresult : trial.result = .ok value) (hput : trial.put? = none) :
      Tries mode budget (remaining + 1) trial.ordinal [trial] (.ok value)
  | committed (trial : Trial number body) {remaining : Nat} {value : α} (hmode : mode = .commit)
      (hresult : trial.result = .ok value) (hcommits : trial.Commits) :
      Tries mode budget (remaining + 1) trial.ordinal [trial] (.ok value)
  | conflicted (trial : Trial number body) {remaining : Nat} {trials : List (Trial number body)} {value : α}
      {result : Except Refusal α} (hmode : mode = .commit) (hresult : trial.result = .ok value)
      (hconflicts : trial.Conflicts) (hrest : Tries mode budget remaining (trial.ordinal + 1) trials result) :
      Tries mode budget (remaining + 1) trial.ordinal (trial :: trials) result

theorem Trial.Conflicts.not_commits {trial : Trial number body} (h : trial.Conflicts) : ¬ trial.Commits := by
  rintro ⟨turn, hcommit, hcommits⟩
  obtain ⟨other, hcommit', hconflicts⟩ := h
  cases hcommit.symm.trans hcommit'
  exact Bool.false_ne_true (hconflicts.symm.trans hcommits)

/-- The turns of some attempts were made by trials, one after the other. -/
theorem exists_trials {remaining ordinal : Nat} {w : World} {deeds : List Deed} {result : Except Refusal α}
    (h : (attempts mode budget body remaining ordinal).Takes number deeds (.done result)) (hw : Unbroken w deeds) :
    ∃ (trials : List (Trial number body)) (rest : List Deed), deeds = trials.flatMap Trial.deeds ++ rest ∧
      Idle number rest ∧ Tries mode budget remaining ordinal trials result := by
  induction remaining generalizing ordinal deeds w with
  | zero =>
      obtain ⟨hdone, hasides⟩ := h.of_done
      cases hdone
      exact ⟨[], deeds, rfl, hasides.idle, .exhausted ordinal⟩
  | succ remaining ih =>
      rw [attempts] at h
      obtain ⟨⟨reached, e⟩, running, rest, rfl, hrun, hrest⟩ := h.exists_bind
      obtain ⟨hrunning, hw'⟩ := unbroken_append.1 hw
      cases reached with
      | error refusal =>
          obtain ⟨hdone, hasides⟩ := hrest.of_done
          cases hdone
          let trial : Trial number body :=
            ⟨ordinal, w, running, .error refusal, e, hrun, hrunning, none, [], (asides_nil number).idle⟩
          refine ⟨[trial], rest, ?_, hasides.idle, .refused trial rfl rfl⟩
          simp [trial, Trial.deeds, Trial.commit?]
      | ok value =>
          cases mode with
          | rollBack =>
              have hkeeps : (Work.perform (.discard e) >>= fun _ => Work.perform (.report (.rolledBack ordinal)) >>=
                  fun _ => pure (.ok value)).Keeps (fun op => op.engages = false)
                    fun reached : Except Refusal α => reached = .ok value :=
                ⟨rfl, fun _ => ⟨rfl, fun _ => rfl⟩⟩
              obtain ⟨hidle, rfl⟩ := hrest.keeps hkeeps
              let trial : Trial number body :=
                ⟨ordinal, w, running, .ok value, e, hrun, hrunning, none, [], (asides_nil number).idle⟩
              refine ⟨[trial], rest, ?_, hidle, .rolledBack trial rfl rfl rfl⟩
              simp [trial, Trial.deeds, Trial.commit?]
          | commit =>
              -- What others do between the body and its commit still counts as done while it ran.
              obtain ⟨asides, u, surroundings, rest, rfl, hasides, hrest⟩ := hrest.exists_turn
              obtain ⟨hasidesWorld, hu, hw''⟩ := unbroken_append.1 hw'
              have hrun' := hrun.append (.of_asides hasides)
              have hrunning' : Unbroken w (running ++ asides) := unbroken_append.2 ⟨hrunning, hasidesWorld⟩
              obtain rfl : u = w.through (running ++ asides) := by
                rw [World.through_append]
                exact hu
              cases hcurrent : e.isCurrent (w.through (running ++ asides)).store with
              | true =>
                  rw [(World.perform_commit_of_isCurrent surroundings _ hcurrent).1] at hrest
                  have hkeeps : (Work.perform (.report (.committed ordinal)) >>= fun _ => pure (.ok value)).Keeps
                      (fun op => op.engages = false) fun reached : Except Refusal α => reached = .ok value :=
                    ⟨rfl, fun _ => rfl⟩
                  obtain ⟨hidle, rfl⟩ := hrest.keeps hkeeps
                  let trial : Trial number body := ⟨ordinal, w, running ++ asides, .ok value, e, hrun', hrunning',
                    some surroundings, [], (asides_nil number).idle⟩
                  refine ⟨[trial], rest, ?_, hidle, .committed trial rfl rfl ⟨_, rfl, hcurrent⟩⟩
                  simp [trial, Trial.deeds, Trial.commit?]
              | false =>
                  rw [World.perform_commit_of_not_isCurrent surroundings _ hcurrent] at hrest
                  obtain ⟨asides', u, surroundings', rest, rfl, hasides', hrest⟩ := hrest.exists_turn
                  obtain ⟨-, -, hlast⟩ := unbroken_append.1 hw''
                  obtain ⟨trials, rest, rfl, hidle, htries⟩ := ih hrest hlast
                  let trial : Trial number body := ⟨ordinal, w, running ++ asides, .ok value, e, hrun', hrunning',
                    some surroundings, asides' ++ [.turn number ⟨u, surroundings', .report (.conflicted ordinal)⟩],
                    hasides'.idle.append (.cons rfl (asides_nil number).idle)⟩
                  refine ⟨trial :: trials, rest, ?_, hidle, .conflicted trial rfl rfl ⟨_, rfl, hcurrent⟩ htries⟩
                  simp [trial, Trial.deeds, Trial.commit?]

namespace Tries

variable {remaining ordinal : Nat} {trials : List (Trial number body)} {result : Except Refusal α}

/-- Attempts are numbered one after the other. -/
theorem ordinals (h : Tries mode budget remaining ordinal trials result) :
    trials.map Trial.ordinal = List.range' ordinal trials.length := by
  induction h with
  | exhausted ordinal => rfl
  | conflicted _ _ _ _ _ ih => rw [List.map_cons, ih]; rfl
  | _ => rfl

theorem length_le (h : Tries mode budget remaining ordinal trials result) : trials.length ≤ remaining := by
  induction h with
  | exhausted ordinal => exact Nat.le_refl 0
  | conflicted _ _ _ _ _ ih => exact Nat.succ_le_succ ih
  | _ => exact Nat.succ_le_succ (Nat.zero_le _)

/-- A commit is tried of an attempt that came to a value, if writes are to last. -/
theorem put_iff (h : Tries mode budget remaining ordinal trials result) :
    ∀ trial ∈ trials, trial.put?.isSome ↔ mode = .commit ∧ ∃ value, trial.result = .ok value := by
  have hput {trial : Trial number body} {turn : Turn} (hcommit : trial.commit? = some turn) : trial.put?.isSome := by
    obtain ⟨surroundings, hsome, -⟩ := Option.map_eq_some_iff.1 hcommit
    rw [hsome]
    rfl
  induction h with
  | exhausted ordinal => exact fun _ h => absurd h List.not_mem_nil
  | refused trial hresult hnone => simp [hresult, hnone]
  | rolledBack trial hmode hresult hnone => simp [hmode, hnone]
  | committed trial hmode hresult hcommits =>
      obtain ⟨turn, hcommit, -⟩ := hcommits
      simp [hmode, hresult, hput hcommit]
  | conflicted trial hmode hresult hconflicts _ ih =>
      obtain ⟨turn, hcommit, -⟩ := hconflicts
      refine List.forall_mem_cons.2 ⟨?_, ih⟩
      simp [hmode, hresult, hput hcommit]

end Tries

/-- What is to become of the writes of an attempt that does not conflict. -/
def Trial.due (mode : CommitMode) (trial : Trial number body) : List Store.Write :=
  match mode, trial.result with
  | .commit, .ok _ => trial.attempt.writes
  | _, _ => []

/-- Either all attempts but the last conflict, and the last decides the result and what is written, or all attempts
that remain conflict. -/
theorem Tries.outcome {remaining ordinal : Nat} {trials : List (Trial number body)} {result : Except Refusal α}
    (h : Tries mode budget remaining ordinal trials result) :
    (∃ earlier last, trials = earlier ++ [last] ∧ (∀ trial ∈ earlier, trial.Conflicts) ∧ ¬ last.Conflicts ∧
        result = last.result ∧ trials.flatMap Trial.writes = last.due mode) ∨
      (trials.length = remaining ∧ (∀ trial ∈ trials, trial.Conflicts) ∧
        result = .error (.fault (.retriesExhausted budget)) ∧ trials.flatMap Trial.writes = []) := by
  have hidle {trial : Trial number body} (hput : trial.put? = none) : ¬ trial.Conflicts ∧ trial.writes = [] := by
    have hnone : trial.commit? = none := by rw [Trial.commit?, hput, Option.map_none]
    constructor
    · rintro ⟨_, hcommit, -⟩
      cases hnone.symm.trans hcommit
    · rw [Trial.writes_eq, hnone]
      rfl
  induction h with
  | exhausted ordinal => exact .inr ⟨rfl, fun _ h => absurd h List.not_mem_nil, rfl, rfl⟩
  | refused trial hresult hput =>
      obtain ⟨hconflicts, hwrites⟩ := hidle hput
      refine .inl ⟨[], trial, rfl, fun _ h => absurd h List.not_mem_nil, hconflicts, hresult.symm, ?_⟩
      rw [List.flatMap_singleton, hwrites]
      cases mode <;> simp only [Trial.due, hresult]
  | rolledBack trial hmode hresult hput =>
      obtain ⟨hconflicts, hwrites⟩ := hidle hput
      refine .inl ⟨[], trial, rfl, fun _ h => absurd h List.not_mem_nil, hconflicts, hresult.symm, ?_⟩
      rw [List.flatMap_singleton, hwrites, hmode]
      simp only [Trial.due]
  | committed trial hmode hresult hcommits =>
      refine .inl ⟨[], trial, rfl, fun _ h => absurd h List.not_mem_nil, fun h => h.not_commits hcommits,
        hresult.symm, ?_⟩
      rw [List.flatMap_singleton, hcommits.writes_eq, hmode]
      simp only [Trial.due, hresult]
  | @conflicted trial remaining trials value result hmode hresult hconflicts hrest ih =>
      have hwrites : (trial :: trials).flatMap Trial.writes = trials.flatMap Trial.writes := by
        rw [List.flatMap_cons, Trial.writes_of_not_commits hconflicts.not_commits, List.nil_append]
      rw [hwrites]
      rcases ih with ⟨earlier, last, rfl, hearlier, hlast, hdecides⟩ | ⟨hlength, hall, hdecides⟩
      · exact .inl ⟨trial :: earlier, last, rfl, List.forall_mem_cons.2 ⟨hconflicts, hearlier⟩, hlast, hdecides⟩
      · exact .inr ⟨congrArg Nat.succ hlength, List.forall_mem_cons.2 ⟨hconflicts, hall⟩, hdecides⟩

/-- The account of a transaction with a budget of attempts that has come to a result and has applied some writes. -/
structure Account (mode : CommitMode) (budget : Nat) (trials : List (Trial number body)) (result : Except Refusal α)
    (applied : List Store.Write) : Prop where
  /-- The body is run once for each attempt, the first time with number 1. -/
  ordinals : trials.map Trial.ordinal = List.range' 1 trials.length
  length_le : trials.length ≤ budget
  /-- A commit is tried only where writes are to last and the body came to a value. -/
  put_iff : ∀ trial ∈ trials, trial.put?.isSome ↔ mode = .commit ∧ ∃ value, trial.result = .ok value
  conflicts_iff : ∀ trial ∈ trials, trial.Conflicts ↔
    (mode = .commit ∧ ∃ value, trial.result = .ok value) ∧ Overtaken number trial.running
  /-- The first attempt that does not conflict is the last, and decides the result and what is written. -/
  outcome : (∃ earlier last, trials = earlier ++ [last] ∧ (∀ trial ∈ earlier, trial.Conflicts) ∧ ¬ last.Conflicts ∧
      result = last.result ∧ applied = last.due mode) ∨
    (trials.length = budget ∧ (∀ trial ∈ trials, trial.Conflicts) ∧
      result = .error (.fault (.retriesExhausted budget)) ∧ applied = [])
  /-- The budget is used up when every attempt came to a value and conflicted. No body is taken to refuse with the
  same words. -/
  exhausted_iff : (∀ trial ∈ trials, trial.result ≠ .error (.fault (.retriesExhausted budget))) →
    (result = .error (.fault (.retriesExhausted budget)) ↔
      trials.length = budget ∧ ∀ trial ∈ trials, (∃ value, trial.result = .ok value) ∧ trial.Conflicts)
  /-- A transaction that is rolled back makes one attempt, which is put to no test and leaves no trace. -/
  rolledBack : mode = .rollBack →
    ∃ trial, trials = [trial] ∧ trial.put? = none ∧ result = trial.result ∧ applied = []

/-- An attempt that came to a value and did not conflict lasts, if writes are to last. -/
theorem Account.commits {trials : List (Trial number body)} {result : Except Refusal α} {applied : List Store.Write}
    (h : Account mode budget trials result applied) {trial : Trial number body} (htrial : trial ∈ trials)
    (hmode : mode = .commit) (hok : ∃ value, trial.result = .ok value) (hnever : ¬ trial.Conflicts) : trial.Commits :=
  (Trial.commits_or_conflicts ((h.put_iff trial htrial).2 ⟨hmode, hok⟩)).resolve_right hnever

theorem Tries.account {trials : List (Trial number body)} {result : Except Refusal α} (hbudget : 1 ≤ budget)
    (h : Tries mode budget budget 1 trials result) :
    Account mode budget trials result (trials.flatMap Trial.writes) := by
  have hconflicts : ∀ trial ∈ trials, trial.Conflicts ↔
      (mode = .commit ∧ ∃ value, trial.result = .ok value) ∧ Overtaken number trial.running := by
    intro trial htrial
    rw [trial.conflicts_iff, h.put_iff trial htrial]
  have hcommit {trial : Trial number body} (htrial : trial ∈ trials) (hconflict : trial.Conflicts) :
      mode = .commit ∧ ∃ value, trial.result = .ok value := ((hconflicts trial htrial).1 hconflict).1
  refine ⟨h.ordinals, h.length_le, h.put_iff, hconflicts, h.outcome, fun hother => ?_, fun hmode => ?_⟩
  · rcases h.outcome with ⟨earlier, last, rfl, -, hlast, rfl, -⟩ | ⟨hlength, hall, rfl, -⟩
    · have hmem : last ∈ earlier ++ [last] := List.mem_append_right earlier (List.mem_singleton_self last)
      exact ⟨fun hsame => absurd hsame (hother last hmem), fun hall => absurd (hall.2 last hmem).2 hlast⟩
    · refine ⟨fun _ => ⟨hlength, fun trial htrial => ?_⟩, fun _ => rfl⟩
      exact ⟨(hcommit htrial (hall trial htrial)).2, hall trial htrial⟩
  · have hnever : ∀ trial ∈ trials, ¬ trial.Conflicts := by
      intro trial htrial hconflict
      cases hmode.symm.trans (hcommit htrial hconflict).1
    rcases h.outcome with ⟨earlier, last, rfl, hearlier, -, rfl, hwrites⟩ | ⟨hlength, hall, -⟩
    · have hnil : earlier = [] := List.eq_nil_iff_forall_not_mem.2 fun trial htrial =>
        hnever trial (List.mem_append_left _ htrial) (hearlier trial htrial)
      subst hnil
      have hput := h.put_iff last (List.mem_singleton_self last)
      refine ⟨last, rfl, ?_, rfl, ?_⟩
      · cases hsome : last.put? with
        | none => rfl
        | some surroundings => cases hmode.symm.trans (hput.1 (by rw [hsome]; rfl)).1
      · rw [hwrites, hmode]
        simp only [Trial.due]
    · cases trials with
      | nil => exact absurd hlength (by simp only [List.length_nil]; omega)
      | cons trial trials => exact absurd (hall trial List.mem_cons_self) (hnever trial List.mem_cons_self)

theorem writesOf_flatMap_deeds (trials : List (Trial number body)) :
    writesOf number (trials.flatMap Trial.deeds) = trials.flatMap Trial.writes := by
  induction trials with
  | nil => rfl
  | cons trial trials ih =>
      rw [List.flatMap_cons, writesOf_append, ih]
      rfl

/-- The deeds of a finished transaction, and what it came to: the store was out of reach when it was opened and no
body was run, or its trials follow each other and can be accounted for. -/
theorem exists_account {mode : CommitMode} {maxAttempts : Nat} {w : World} {deeds : List Deed}
    {result : Except Refusal α} (h : (transact mode maxAttempts body).Takes number deeds (.done result))
    (hw : Unbroken w deeds) :
    (Idle number deeds ∧ ∃ opened fault, Deed.turn number opened ∈ deeds ∧ opened.op = .openTransaction ∧
        opened.surroundings.outage .transaction = some fault ∧ result = .error (.fault fault)) ∨
      ∃ (opening : List Deed) (trials : List (Trial number body)) (rest : List Deed),
        deeds = opening ++ trials.flatMap Trial.deeds ++ rest ∧ Idle number opening ∧ Idle number rest ∧
        Account mode (max 1 maxAttempts) trials result (writesOf number deeds) := by
  obtain ⟨asides, u, surroundings, rest, rfl, hasides, hrest⟩ := Work.Takes.exists_turn h
  have hopening : Idle number (asides ++ [.turn number ⟨u, surroundings, .openTransaction⟩]) :=
    hasides.idle.append (.cons rfl (asides_nil number).idle)
  have hdeeds (rest : List Deed) : asides ++ .turn number ⟨u, surroundings, .openTransaction⟩ :: rest
      = asides ++ [.turn number ⟨u, surroundings, .openTransaction⟩] ++ rest := by
    rw [List.append_assoc, List.singleton_append]
  cases houtage : surroundings.outage .transaction with
  | some fault =>
      simp only [World.perform, World.reach, houtage] at hrest
      obtain ⟨hdone, hlater⟩ := hrest.of_done
      cases hdone
      refine .inl ⟨?_, ⟨u, surroundings, .openTransaction⟩, fault, ?_, rfl, houtage, rfl⟩
      · rw [hdeeds]
        exact hopening.append hlater.idle
      · exact List.mem_append_right asides List.mem_cons_self
  | none =>
      simp only [World.perform, World.reach, houtage] at hrest
      rw [hdeeds] at hw ⊢
      obtain ⟨-, hw'⟩ := unbroken_append.1 hw
      obtain ⟨trials, rest, rfl, hidle, htries⟩ := exists_trials hrest hw'
      have haccount := htries.account (Nat.le_max_left 1 maxAttempts)
      refine .inr ⟨_, trials, rest, (List.append_assoc ..).symm, hopening, hidle, ?_⟩
      rw [writesOf_append, writesOf_append number (trials.flatMap Trial.deeds), hopening.writesOf_eq_nil,
        hidle.writesOf_eq_nil, writesOf_flatMap_deeds, List.nil_append, List.append_nil]
      exact haccount

/-- Every transaction that has come to a result, whatever others did meanwhile, is accounted for. -/
theorem transact_accounts (mode : CommitMode) (maxAttempts : Nat) (body : Nat → Body α)
    (r : Registry (Except Refusal α)) (moves : List (Move (Except Refusal α))) {result : Except Refusal α}
    (hdone : ((r.move (.submit (transact mode maxAttempts body))).play moves).requests[r.requests.length]?
      = some (.done result)) :
    let number := r.requests.length
    let deeds := (r.move (.submit (transact mode maxAttempts body))).deeds moves
    (Idle number deeds ∧ ∃ opened fault, Deed.turn number opened ∈ deeds ∧ opened.op = .openTransaction ∧
        opened.surroundings.outage .transaction = some fault ∧ result = .error (.fault fault)) ∨
      ∃ (opening : List Deed) (trials : List (Trial number body)) (rest : List Deed),
        deeds = opening ++ trials.flatMap Trial.deeds ++ rest ∧ Idle number opening ∧ Idle number rest ∧
        Account mode (max 1 maxAttempts) trials result (writesOf number deeds) := by
  intro number deeds
  have hsubmitted : (r.move (.submit (transact mode maxAttempts body))).requests[number]?
      = some (transact mode maxAttempts body) := by
    simp only [number, Registry.move, List.getElem?_concat_length]
  obtain ⟨q, hq, htakes⟩ := Registry.takes_play moves hsubmitted
  obtain rfl := Option.some.inj (hq.symm.trans hdone)
  exact exists_account htakes (Registry.unbroken_deeds _ moves).1

/-- The answer to a question that was overtaken once is accounted for. -/
theorem transact_accounts_chargedQuestion :
    let start := ({} : Registry (Except Refusal Bool)).move (.submit (transact .commit 2 fun _ => chargedQuestion))
    (start.play rivalledMoves).requests[0]? = some (.done (.ok true)) ∧
      ∃ (opening : List Deed) (trials : List (Trial 0 fun _ => chargedQuestion)) (rest : List Deed),
        start.deeds rivalledMoves = opening ++ trials.flatMap Trial.deeds ++ rest ∧
        Account .commit 2 trials (.ok true) (writesOf 0 (start.deeds rivalledMoves)) := by
  intro start
  have hanswer : ((start.play rivalledMoves).requests[0]?.bind Work.value?).bind Except.toOption = some true := by
    decide +kernel
  obtain ⟨result, hresult, hok⟩ := Option.bind_eq_some_iff.1 hanswer
  obtain ⟨p, hp, hp'⟩ := Option.bind_eq_some_iff.1 hresult
  cases result with
  | error refusal => cases hok
  | ok answer =>
      cases hok
      have hdone : (start.play rivalledMoves).requests[0]? = some (.done (.ok true)) := by
        rw [hp, Work.value?_eq_some.1 hp']
      refine ⟨hdone, ?_⟩
      rcases transact_accounts .commit 2 (fun _ => chargedQuestion) {} rivalledMoves hdone with
        ⟨-, _, _, -, -, -, hfault⟩ | ⟨opening, trials, rest, hdeeds, -, -, haccount⟩
      · cases hfault
      · exact ⟨opening, trials, rest, hdeeds, haccount⟩

end Bailiwick.Transaction
