import Bailiwick.Proofs.Transaction.Validation

/-!
How a transaction can end in company. Its attempts are made one after the other; each but the last came to
a value and was out of date at the time of its commit. The only turn of a transaction that is not quiet is
the commit that ends it, and the attempt of that commit is explained on the very store that it changes.
-/

namespace Bailiwick.Transaction

variable {α : Type} {c : Company}

/-- The attempt with a number, begun after one world, has come to a result by another. -/
def Attempted (c : Company) (body : Nat → Body α) (w now : World) (number : Nat)
    (result : Except Refusal α) (e : Attempt) : Prop :=
  ∃ start, c.changes w start ∧ (body number).Reaches c .empty start start [] now result e

theorem Attempted.of_changes (hc : c.Grows) {body : Nat → Body α} {w v now : World} {number : Nat}
    {result : Except Refusal α} {e : Attempt} (h : Attempted c body w v number result e)
    (hv : c.changes v now) : Attempted c body w now number result e := by
  obtain ⟨start, hstart, hreach⟩ := h
  refine ⟨start, hstart, rfl, c.trans hreach.changes hv, hreach.noted.of_changes hv, hreach.explains.reads, ?_⟩
  exact fun t ht hcurrent => hreach.explains.evaluate_eq t ((hc hv).trans ht) hcurrent

/-- An attempt that is current at the time of a world has come to what its body comes to there alone. -/
theorem Attempted.evaluate_eq {body : Nat → Body α} {w now : World} {number : Nat}
    {result : Except Refusal α} {e : Attempt} (h : Attempted c body w now number result e)
    (hcurrent : e.isCurrent now.store = true) :
    (body number).evaluate now.store [] = (result, e.writes) := by
  obtain ⟨start, -, hreach⟩ := h
  exact hreach.explains.evaluate_eq now.store (Store.Later.refl now.store) hcurrent

/-- The attempt with a number came to a value and was out of date by the time of its commit. -/
def Conflicted (c : Company) (body : Nat → Body α) (w now : World) (number : Nat) : Prop :=
  ∃ value e, Attempted c body w now number (.ok value) e ∧ e.isCurrent now.store = false

/-- Every attempt before the one with a number conflicted. -/
def Tried (c : Company) (body : Nat → Body α) (w now : World) (number : Nat) : Prop :=
  ∀ k, 1 ≤ k → k < number → ∃ u, c.changes u now ∧ Conflicted c body w u k

theorem tried_one (c : Company) (body : Nat → Body α) (w now : World) : Tried c body w now 1 :=
  fun k hk hlt => absurd hlt (by omega)

theorem Tried.of_changes {body : Nat → Body α} {w v now : World} {number : Nat}
    (h : Tried c body w v number) (hv : c.changes v now) : Tried c body w now number := by
  intro k hk hlt
  obtain ⟨u, hu, hconflict⟩ := h k hk hlt
  exact ⟨u, c.trans hu hv, hconflict⟩

theorem Tried.succ {body : Nat → Body α} {w now : World} {number : Nat} (h : Tried c body w now number)
    (hconflict : Conflicted c body w now number) : Tried c body w now (number + 1) := by
  intro k hk hlt
  by_cases heq : k = number
  · exact ⟨now, c.refl now, heq ▸ hconflict⟩
  · exact h k hk (by omega)

/-- The ends of a transaction with a budget of attempts: its turns that were not quiet, the world at its
end and its result. -/
inductive Ends (c : Company) (mode : CommitMode) (budget : Nat) (body : Nat → Body α) (w : World) :
    List Turn → World → Except Refusal α → Prop where
  | unreachable {now : World} {fault : Fault} (hnow : c.changes w now) (houtage : c.Outage .transaction fault) :
      Ends c mode budget body w [] now (.error (.fault fault))
  | refused {u now : World} {number : Nat} {refusal : Refusal} {e : Attempt} (hu : c.changes u now)
      (hpos : 1 ≤ number) (hnumber : number ≤ budget) (htried : Tried c body w u number)
      (hattempt : Attempted c body w u number (.error refusal) e) :
      Ends c mode budget body w [] now (.error refusal)
  | exhausted {now : World} (hmode : mode = .commit) (htried : Tried c body w now (budget + 1)) :
      Ends c mode budget body w [] now (.error (.fault (.retriesExhausted budget)))
  | rolledBack {u now : World} {value : α} {e : Attempt} (hu : c.changes u now) (hmode : mode = .rollBack)
      (hattempt : Attempted c body w u 1 (.ok value) e) : Ends c mode budget body w [] now (.ok value)
  | committed {turn : Turn} {now : World} {number : Nat} {value : α} {e : Attempt}
      (hnow : c.changes turn.after now) (hmode : mode = .commit) (hpos : 1 ≤ number) (hnumber : number ≤ budget)
      (htried : Tried c body w turn.world number)
      (hattempt : Attempted c body w turn.world number (.ok value) e) (hop : turn.op = .commit e)
      (hcurrent : e.isCurrent turn.world.store = true) : Ends c mode budget body w [turn] now (.ok value)

/-- A transaction that has ended has ended for good. -/
theorem Ends.of_changes {mode : CommitMode} {budget : Nat} {body : Nat → Body α} {w v now : World}
    {turns : List Turn} {result : Except Refusal α} (h : Ends c mode budget body w turns v result)
    (hv : c.changes v now) : Ends c mode budget body w turns now result := by
  cases h with
  | unreachable hnow houtage => exact .unreachable (c.trans hnow hv) houtage
  | refused hu hpos hnumber htried hattempt => exact .refused (c.trans hu hv) hpos hnumber htried hattempt
  | exhausted hmode htried => exact .exhausted hmode (htried.of_changes hv)
  | rolledBack hu hmode hattempt => exact .rolledBack (c.trans hu hv) hmode hattempt
  | committed hnow hmode hpos hnumber htried hattempt hop hcurrent =>
      exact .committed (c.trans hnow hv) hmode hpos hnumber htried hattempt hop hcurrent

theorem ensures_attempts (hc : c.Grows) {mode : CommitMode} {budget : Nat} {body : Nat → Body α}
    (hbody : ∀ number, (body number).OverlooksHosts) {remaining number : Nat} {w u : World}
    (hbudget : number + remaining = budget + 1) (hpos : 1 ≤ number) (hbudget_pos : 1 ≤ budget)
    (hmode : mode = .rollBack → number = 1) (hu : c.changes w u) (htried : Tried c body w u number) :
    (attempts mode budget body remaining number).Ensures c (Ends c mode budget body w) u := by
  induction remaining generalizing number u with
  | zero =>
      have hnumber : number = budget + 1 := hbudget
      have hcommit : mode = .commit := by
        cases mode with
        | commit => rfl
        | rollBack =>
            have := hmode rfl
            omega
      intro now hnow
      exact .exhausted hcommit (hnumber ▸ htried.of_changes hnow)
  | succ remaining ih =>
      rw [attempts]
      apply Work.ensures_bind
      refine (Body.ensures_run hc (hbody number) (c.refl u) (Attempt.noted_empty c u u)).mono ?_
      rintro turns v ⟨result, e⟩ h
      obtain rfl := h.quiet
      have hv := c.trans hu h.changes
      have hattempt : Attempted c body w v number result e := ⟨u, hu, h⟩
      cases result with
      | error refusal =>
          intro now hnow
          exact .refused hnow hpos (by omega) (htried.of_changes h.changes) hattempt
      | ok value =>
          cases mode with
          | rollBack =>
              obtain rfl := hmode rfl
              apply Work.ensures_step_of_isQuiet (fun _ _ => rfl)
              intro v' hv' _ _
              apply Work.ensures_step_of_isQuiet (fun _ _ => rfl)
              intro v'' hv'' _ _ now hnow
              exact .rolledBack (c.trans hv' (c.trans hv'' hnow)) rfl hattempt
          | commit =>
              refine Work.ensures_commit_bind (fun v' hv' surroundings hcurrent => ?_) fun v' hv' hstale => ?_
              · apply Work.ensures_step_of_isQuiet (fun _ _ => rfl)
                intro v'' hv'' _ _ now hnow
                exact .committed (c.trans hv'' hnow) rfl hpos (by omega)
                  (htried.of_changes (c.trans h.changes hv')) (hattempt.of_changes hc hv') rfl hcurrent
              · apply Work.ensures_step_of_isQuiet (fun _ _ => rfl)
                intro v'' hv'' _ _
                have hconflicted : Conflicted c body w v' number := ⟨value, e, hattempt.of_changes hc hv', hstale⟩
                have htried' := (htried.of_changes (c.trans h.changes hv')).succ hconflicted
                refine ih (by omega) (by omega) nofun (c.trans hv (c.trans hv' hv'')) ?_
                exact htried'.of_changes hv''

/-- In company a transaction ends in one of these ways. -/
theorem ensures_transact (hc : c.Grows) (mode : CommitMode) (maxAttempts : Nat) {body : Nat → Body α}
    (hbody : ∀ number, (body number).OverlooksHosts) (w : World) :
    (transact mode maxAttempts body).Ensures c (Ends c mode (max 1 maxAttempts) body w) w := by
  refine Work.ensures_step_of_isQuiet (fun _ _ => rfl) fun u hu surroundings hmeets => ?_
  cases houtage : surroundings.outage .transaction with
  | some fault =>
      simp only [World.perform, World.reach, houtage]
      intro now hnow
      exact .unreachable (c.trans hu hnow) ⟨surroundings, hmeets, houtage⟩
  | none =>
      simp only [World.perform, World.reach, houtage]
      exact ensures_attempts hc hbody (Nat.add_comm _ _) (Nat.le_refl 1) (Nat.le_max_left 1 maxAttempts)
        (fun _ => rfl) hu
        (tried_one c body w u)

end Bailiwick.Transaction
