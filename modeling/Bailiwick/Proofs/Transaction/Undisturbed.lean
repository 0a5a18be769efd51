import Bailiwick.Proofs.Transaction.Attempts

/-!
Transactions that nobody disturbs. Without company every version that an attempt has noted is still current at
its commit, so the first attempt is the only one and comes to what its body comes to on the present store.
-/

namespace Bailiwick

variable {surroundings : Surroundings} {w now : World}

/-- Without company a moment is like any other. -/
theorem Company.Meanwhile.of_none {P : Store → Prop} (h : (Company.none surroundings).Meanwhile w now P) :
    P w.store := by
  obtain ⟨u, hu, -, hP⟩ := h
  rw [← hu.store]
  exact hP

theorem Company.not_outage_of_none (h : ∀ call, surroundings.outage call = Option.none) (call : Call)
    (fault : Fault) : ¬ (Company.none surroundings).Outage call fault := by
  rintro ⟨_, rfl, hfault⟩
  rw [h call] at hfault
  cases hfault

namespace Transaction

variable {α : Type} {body : Nat → Body α} {number budget : Nat} {result : Except Refusal α} {e : Attempt}

theorem Attempted.isCurrent_of_none (h : Attempted (Company.none surroundings) body w now number result e) :
    e.isCurrent now.store = true := by
  obtain ⟨start, -, hreach⟩ := h
  apply Attempt.isCurrent_iff.2
  intro read hread
  rw [hreach.changes.store]
  exact (hreach.noted read hread).of_none

theorem Attempted.evaluate_eq_of_none (h : Attempted (Company.none surroundings) body w now number result e) :
    now.store = w.store ∧ (body number).evaluate w.store [] = (result, e.writes) := by
  have hnow : now.store = w.store := by
    obtain ⟨start, hstart, hreach⟩ := h
    rw [hreach.changes.store, hstart.store]
  exact ⟨hnow, hnow ▸ h.evaluate_eq h.isCurrent_of_none⟩

/-- Without company there is no second attempt. -/
theorem Tried.eq_one_of_none (h : Tried (Company.none surroundings) body w now number) (hpos : 1 ≤ number) :
    number = 1 := by
  rcases Nat.eq_or_lt_of_le hpos with hone | hlater
  · exact hone.symm
  · obtain ⟨u, -, value, e, hattempt, hstale⟩ := h 1 (Nat.le_refl 1) hlater
    rw [hattempt.isCurrent_of_none] at hstale
    cases hstale

/-- The store after a transaction in a mode, given its result and its writes. -/
def storeAfter (s : Store) (mode : CommitMode) (result : Except Refusal α) (writes : List Store.Write) : Store :=
  match mode, result with
  | .commit, .ok _ => s.applyAll writes
  | _, _ => s

/-- Without company and with the store in reach a transaction comes to what its first attempt evaluates to,
and leaves the writes of that attempt when it commits. -/
theorem Ends.evaluate_eq_of_none {mode : CommitMode} {turns : List Turn} (hbudget : 1 ≤ budget)
    (hreach : ∀ call, surroundings.outage call = Option.none)
    (h : Ends (Company.none surroundings) mode budget body w turns now result) :
    ((body 1).evaluate w.store []).1 = result ∧
      now.store = storeAfter w.store mode result ((body 1).evaluate w.store []).2 := by
  cases h with
  | unreachable _ houtage => exact absurd houtage (Company.not_outage_of_none hreach _ _)
  | refused hu hpos _ htried hattempt =>
      obtain rfl := htried.eq_one_of_none hpos
      obtain ⟨hstore, heval⟩ := hattempt.evaluate_eq_of_none
      rw [heval]
      refine ⟨rfl, ?_⟩
      cases mode <;> exact hu.store.trans hstore
  | exhausted _ htried =>
      have hone := htried.eq_one_of_none (Nat.le_add_left 1 budget)
      omega
  | rolledBack hu hmode hattempt =>
      obtain ⟨hstore, heval⟩ := hattempt.evaluate_eq_of_none
      subst hmode
      rw [heval]
      exact ⟨rfl, hu.store.trans hstore⟩
  | @committed turn _ number value e hnow hmode hpos _ htried hattempt hop hcurrent =>
      obtain rfl := htried.eq_one_of_none hpos
      obtain ⟨hstore, heval⟩ := hattempt.evaluate_eq_of_none
      subst hmode
      rw [heval]
      refine ⟨rfl, hnow.store.trans ?_⟩
      rw [Turn.after, hop, (turn.world.perform_commit_of_isCurrent turn.surroundings hcurrent).2.1, hstore]
      rfl

end Transaction

end Bailiwick
