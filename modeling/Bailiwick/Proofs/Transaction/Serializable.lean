import Bailiwick.Proofs.Transaction.Attempts
import Bailiwick.Proofs.Turns

/-!
Transactions are serializable. A transaction that succeeds among the edits and requests of a registry has
one turn that changes anything. That turn applies what the body comes to on the store that the turn meets,
as if the body had been run in full just before it.
-/

namespace Bailiwick

/-- A link to a domain that is not there changes nothing. -/
theorem Store.apply_linkHost_of_missing {s : Store} {key : DomainKey}
    (h : (s.domains.any fun d => d.key = key) = false) (hostName : String) :
    s.apply (.linkHost key hostName) = s := by
  rw [apply, s.domains.updateFirst_of_any_eq_false _ _ h]

/-- What work has come to, once it is done. -/
def Work.value? {α : Type} : Work α → Option α
  | .done value => some value
  | .step _ _ => none

theorem Work.value?_eq_some {α : Type} {p : Work α} {value : α} : p.value? = some value ↔ p = .done value := by
  cases p with
  | done other => simp [value?]
  | step op next => simp [value?]

theorem Work.bind_value?_eq_some {α : Type} {o : Option (Work α)} {value : α} :
    o.bind Work.value? = some value ↔ o = some (.done value) := by
  rw [Option.bind_eq_some_iff]
  simp only [Work.value?_eq_some, exists_eq_right]

namespace Transaction

variable {α : Type}

/-- A turn commits the attempt with a number, and what the attempt has come to is what its body comes to
when it is run without interruption on the store that the turn meets. -/
structure CommitsAlone (body : Nat → Body α) (value : α) (turn : Turn) (number : Nat) (e : Attempt) : Prop where
  op : turn.op = .commit e
  evaluate_eq : (body number).evaluate turn.world.store [] = (.ok value, e.writes)
  run_eq (surroundings : Surroundings) : ∃ alone : Attempt,
    ((body number).run .empty).run surroundings turn.world = (turn.world, .ok value, alone) ∧
      alone.writes = e.writes
  store_after : turn.after.store = turn.world.store.applyAll e.writes

theorem Ends.commitsAlone {c : Company} {budget : Nat} {body : Nat → Body α} {w now : World}
    {turns : List Turn} {value : α} (h : Ends c .commit budget body w turns now (.ok value)) :
    ∃ turn number e, turns = [turn] ∧ CommitsAlone body value turn number e := by
  cases h with
  | rolledBack _ hmode _ => cases hmode
  | @committed turn _ number _ e _ _ _ _ _ hattempt hop hcurrent =>
      have heval := hattempt.evaluate_eq hcurrent
      refine ⟨turn, number, e, rfl, hop, heval, fun surroundings => ?_, ?_⟩
      · obtain ⟨alone, hrun, hwrites⟩ := (body number).run_alone .empty surroundings turn.world
        rw [Attempt.writes_empty, heval] at hrun hwrites
        exact ⟨alone, hrun, hwrites⟩
      · rw [Turn.after, hop]
        exact (turn.world.perform_commit_of_isCurrent turn.surroundings hcurrent).2.1

/-- Whatever the others do, the value and the writes of a successful transaction are those of its body run
alone on the store before its commit, which is the only turn by which it changes the store. -/
theorem transact_serializable {body : Nat → Body α} (hbody : ∀ number, (body number).OverlooksHosts)
    (maxAttempts : Nat) (r : Registry (Except Refusal α)) (moves : List (Move (Except Refusal α)))
    {value : α} (hdone : ((r.move (.submit (transact .commit maxAttempts body))).play moves).requests[
      r.requests.length]? = some (.done (.ok value))) :
    ∃ turn number e,
      (r.move (.submit (transact .commit maxAttempts body))).effects moves r.requests.length = [turn] ∧
      CommitsAlone body value turn number e ∧
      (∀ other, (r.requests.length, other) ∈
          (r.move (.submit (transact .commit maxAttempts body))).turns moves →
        other ≠ turn → other.after.store = other.world.store) ∧
      ∀ (s : Store) (key : DomainKey) (hostName : String),
        (s.domains.any fun d => d.key = key) = false → s.apply (.linkHost key hostName) = s := by
  have hsubmitted : (r.move (.submit (transact .commit maxAttempts body))).requests[r.requests.length]?
      = some (transact .commit maxAttempts body) := by
    simp only [Registry.move, List.getElem?_concat_length]
  have hensures := ensures_transact Company.anyone_grows .commit maxAttempts hbody
    (r.move (.submit (transact .commit maxAttempts body))).world
  obtain ⟨p, hp, hend⟩ :=
    Registry.ensures_play (fun m (_ : m ∈ moves) => Company.anyone_admits m) hsubmitted hensures
  obtain rfl := Option.some.inj (hp.symm.trans hdone)
  obtain ⟨turn, number, e, hturns, hcommits⟩ := (hend _ (Company.anyone.refl _)).commitsAlone
  rw [List.append_nil] at hturns
  refine ⟨turn, number, e, hturns, hcommits, fun other hother hne => ?_, fun s key hostName hmissing => ?_⟩
  · cases hquiet : other.isQuiet with
    | true => exact (Turn.alike_of_isQuiet hquiet).store
    | false =>
        have heffect := Registry.mem_effects.2 ⟨hother, hquiet⟩
        rw [hturns] at heffect
        exact absurd (List.mem_singleton.1 heffect) hne
  · exact Store.apply_linkHost_of_missing hmissing hostName

/-- Charges for the answer whether a domain is there. -/
def chargedQuestion : Body Bool :=
  .loadDomain "example.tld" .epoch fun found =>
    .write (.insertBilling ⟨.ofNat 1, ⟨"TheRegistrar"⟩, "ASK", .epoch⟩) (.done (.ok found.isSome))

theorem chargedQuestion_overlooksHosts : chargedQuestion.OverlooksHosts := by
  refine ⟨fun _ => trivial, ?_⟩
  intro found other h
  have hsome : found.isSome = other.isSome := by
    rw [← Option.isSome_map (f := Domain.bare), h, Option.isSome_map]
  simp only [hsome]

/-- The domain is put between the question and the commit of the answer. -/
def rivalledMoves : List (Move (Except Refusal Bool)) :=
  [.turn 0 .calm, .turn 0 .calm,
    .edit (.putDomain (.new ⟨.ofNat 7⟩ "example.tld" ⟨"NewRegistrar"⟩ .epoch)),
    .turn 0 .calm, .turn 0 .calm, .turn 0 .calm, .turn 0 .calm, .turn 0 .calm]

theorem transact_serializable_chargedQuestion :
    let r := ({} : Registry (Except Refusal Bool)).move (.submit (transact .commit 2 fun _ => chargedQuestion))
    (r.play rivalledMoves).requests[0]? = some (.done (.ok true)) ∧
      ∃ turn number e, r.effects rivalledMoves 0 = [turn] ∧
        CommitsAlone (fun _ => chargedQuestion) true turn number e := by
  intro r
  have hdone : (r.play rivalledMoves).requests[0]? = some (.done (.ok true)) := by
    have hvalue : ((r.play rivalledMoves).requests[0]?.bind Work.value?).bind Except.toOption = some true := by
      decide +kernel
    obtain ⟨result, hresult, hok⟩ := Option.bind_eq_some_iff.1 hvalue
    obtain ⟨p, hp, hp'⟩ := Option.bind_eq_some_iff.1 hresult
    cases result with
    | error refusal => cases hok
    | ok found =>
        cases hok
        rw [hp, Work.value?_eq_some.1 hp']
  obtain ⟨turn, number, e, heffects, hcommits, -, -⟩ :=
    transact_serializable (fun _ => chargedQuestion_overlooksHosts) 2 {} rivalledMoves hdone
  exact ⟨hdone, turn, number, e, heffects, hcommits⟩

end Transaction

end Bailiwick
