import Bailiwick.Proofs.Create.Flow

/-!
The lifecycle under any sequence of inputs. Every input that is accepted leads to a state of higher rank, so that no
state comes twice. What was accepted can be told from the state that a request is in, but for the stage at which an
aborted one has failed.
-/

namespace Bailiwick.Create

/-- The moves of the lifecycle. -/
inductive State.Moves : State → Input → State → Prop where
  | validate : Moves .received .nameValidated .validated
  | classify (subordinate : Bool) : Moves .validated (.classified subordinate) (.classified subordinate)
  | check (subordinate : Bool) : Moves (.classified subordinate) .constraintsPassed (.constraintsChecked subordinate)
  | start (subordinate : Bool) : Moves (.constraintsChecked subordinate) .transactionStarted (.transacting subordinate)
  | commit (subordinate : Bool) : Moves (.transacting subordinate) .transactionCommitted (.committed subordinate)
  | rollBack (subordinate : Bool) : Moves (.transacting subordinate) .transactionRolledBack .rolledBack
  | trigger : Moves (.committed true) .dnsRefreshEnqueued .dnsTriggered
  | abort {s : State} (refusal : Refusal) (hlive : s.isTerminal = false) : Moves s (.failed refusal) (.aborted refusal)

namespace State

variable {s next : State} {input : Input} {taken : List Input}

/-- The next state is the one that the lifecycle moves to. -/
theorem next?_eq_some_iff : s.next? input = some next ↔ s.Moves input next := by
  constructor
  · intro h
    rw [next?.eq_def] at h
    split at h
    case h_8 refusal =>
      split at h
      · cases h
      · next hlive =>
          cases h
          exact .abort refusal (Bool.eq_false_iff.2 hlive)
    all_goals first
      | cases h; constructor
      | cases h
  · rintro (_ | _ | _ | _ | _ | _ | _ | ⟨refusal, hlive⟩)
    case abort => cases s <;> first | rfl | cases hlive
    all_goals rfl

/-- How far a request has come. -/
def rank : State → Nat
  | .received => 0
  | .validated => 1
  | .classified _ => 2
  | .constraintsChecked _ => 3
  | .transacting _ => 4
  | .committed _ => 5
  | .rolledBack => 6
  | .dnsTriggered => 6
  | .aborted _ => 6

theorem rank_le (s : State) : s.rank ≤ 6 := by
  cases s <;> simp only [rank] <;> omega

theorem Moves.rank_lt (h : s.Moves input next) : s.rank < next.rank := by
  cases h with
  | abort _ hlive => cases s <;> simp_all [rank, isTerminal]
  | _ => simp [rank]

/-- The rank of the states whose names begin as a text does. -/
def rankNamed : List Char → Nat
  | 'r' :: 'e' :: _ => 0
  | 'v' :: _ => 1
  | 'c' :: 'l' :: _ => 2
  | 'c' :: 'o' :: 'n' :: _ => 3
  | 't' :: _ => 4
  | 'c' :: 'o' :: 'm' :: _ => 5
  | _ => 6

/-- The rank of a state can be read off its name. -/
theorem rankNamed_text (s : State) : rankNamed s.text.toList = s.rank := by
  cases s with
  | aborted refusal =>
      have hmark : "aborted(".toList = ['a', 'b', 'o', 'r', 't', 'e', 'd', '('] := by rfl
      have htext : (aborted refusal).text = "aborted(" ++ toString refusal.code.number ++ ")" := rfl
      rw [htext, String.toList_append, String.toList_append, hmark]
      rfl
  | classified => exact (rfl : rankNamed "classified".toList = 2)
  | constraintsChecked => exact (rfl : rankNamed "constraints_checked".toList = 3)
  | transacting => exact (rfl : rankNamed "transacting".toList = 4)
  | committed => exact (rfl : rankNamed "committed".toList = 5)
  | _ => rfl

theorem text_ne_of_rank_lt (h : s.rank < next.rank) : s.text ≠ next.text := by
  intro htext
  rw [← rankNamed_text s, ← rankNamed_text next, htext] at h
  exact Nat.lt_irrefl _ h

/-- Nothing moves a request that was rolled back, that has handed in its refresh or was aborted, nor one that has
committed an external host. -/
theorem not_moves (h : s = .rolledBack ∨ s = .dnsTriggered ∨ (∃ refusal, s = .aborted refusal) ∨ s = .committed false) :
    ¬ s.Moves input next := by
  rintro hmove
  rcases h with rfl | rfl | ⟨refusal, rfl⟩ | rfl <;> cases hmove <;> contradiction

/-- The inputs of a request up to its transaction. -/
def opening (subordinate : Bool) : List Input :=
  [.nameValidated, .classified subordinate, .constraintsPassed, .transactionStarted]

/-- What was accepted from a request that is in a state. -/
inductive Recalls : State → List Input → Prop where
  | received : Recalls .received []
  | validated : Recalls .validated [.nameValidated]
  | classified (subordinate : Bool) : Recalls (.classified subordinate) [.nameValidated, .classified subordinate]
  | constraintsChecked (subordinate : Bool) :
      Recalls (.constraintsChecked subordinate) [.nameValidated, .classified subordinate, .constraintsPassed]
  | transacting (subordinate : Bool) : Recalls (.transacting subordinate) (opening subordinate)
  | committed (subordinate : Bool) :
      Recalls (.committed subordinate) (opening subordinate ++ [.transactionCommitted])
  | rolledBack (subordinate : Bool) : Recalls .rolledBack (opening subordinate ++ [.transactionRolledBack])
  | dnsTriggered : Recalls .dnsTriggered (opening true ++ [.transactionCommitted] ++ [.dnsRefreshEnqueued])
  | aborted (refusal : Refusal) {subordinate : Bool} {stages : List Input}
      (hstages : stages <+: opening subordinate) : Recalls (.aborted refusal) (stages ++ [.failed refusal])

/-- Where a request has not ended, it has gone a part of the way up to its transaction. -/
theorem Recalls.exists_prefix (h : s.Recalls taken) (hlive : s.isTerminal = false) :
    ∃ subordinate, taken <+: opening subordinate := by
  cases h with
  | received => exact ⟨true, _, rfl⟩
  | validated => exact ⟨true, _, rfl⟩
  | classified subordinate => exact ⟨subordinate, _, rfl⟩
  | constraintsChecked subordinate => exact ⟨subordinate, _, rfl⟩
  | transacting subordinate => exact ⟨subordinate, List.prefix_rfl⟩
  | _ => cases hlive

theorem Recalls.move (h : s.Recalls taken) (hmove : s.Moves input next) : next.Recalls (taken ++ [input]) := by
  cases hmove with
  | validate => cases h; exact .validated
  | classify subordinate => cases h; exact .classified subordinate
  | check => cases h; exact .constraintsChecked _
  | start => cases h; exact .transacting _
  | commit => cases h; exact .committed _
  | rollBack => cases h; exact .rolledBack _
  | trigger => cases h; exact .dnsTriggered
  | abort refusal hlive =>
      obtain ⟨subordinate, hstages⟩ := h.exists_prefix hlive
      exact .aborted refusal hstages

end State

namespace Trail

variable {t next : Trail} {input : Input} {s : State}

/-- The trail after an input, which is the same where the input is rejected. -/
def take (t : Trail) (input : Input) : Trail :=
  match t.advance input with
  | .ok next => next
  | .error _ => t

/-- The trail after a sequence of inputs. -/
def feed (t : Trail) (inputs : List Input) : Trail := inputs.foldl take t

/-- The inputs of a sequence that are accepted when their turn comes. -/
def accepted (t : Trail) : List Input → List Input
  | [] => []
  | input :: rest =>
    match t.advance input with
    | .ok next => input :: next.accepted rest
    | .error _ => t.accepted rest

theorem advance_eq_ok_iff :
    t.advance input = .ok next ↔ ∃ s, t.current.Moves input s ∧ next = ⟨s, t.visited ++ [s]⟩ := by
  simp only [← State.next?_eq_some_iff, advance, State.step]
  cases t.current.next? input with
  | none => simp
  | some s => simp [eq_comm]

theorem take_of_ok (h : t.advance input = .ok next) : t.take input = next := by
  rw [take, h]

theorem take_of_error {misstep : Misstep} (h : t.advance input = .error misstep) : t.take input = t := by
  rw [take, h]

theorem feed_cons (t : Trail) (input : Input) (rest : List Input) : t.feed (input :: rest) = (t.take input).feed rest :=
  rfl

theorem accepted_cons_of_ok (h : t.advance input = .ok next) (rest : List Input) :
    t.accepted (input :: rest) = input :: next.accepted rest := by
  rw [accepted, h]

theorem accepted_cons_of_error {misstep : Misstep} (h : t.advance input = .error misstep) (rest : List Input) :
    t.accepted (input :: rest) = t.accepted rest := by
  rw [accepted, h]

/-- The inputs that are accepted make the trail, and each of them is accepted without the others too. -/
theorem feed_accepted (t : Trail) (inputs : List Input) :
    t.feed (t.accepted inputs) = t.feed inputs ∧ t.accepted (t.accepted inputs) = t.accepted inputs := by
  induction inputs generalizing t with
  | nil => exact ⟨rfl, rfl⟩
  | cons input rest ih =>
      rw [feed_cons]
      cases hadvance : t.advance input with
      | ok next =>
          rw [accepted_cons_of_ok hadvance, accepted_cons_of_ok hadvance, feed_cons, take_of_ok hadvance]
          exact ⟨(ih next).1, congrArg (input :: ·) (ih next).2⟩
      | error misstep =>
          rw [accepted_cons_of_error hadvance, take_of_error hadvance]
          exact ih t

theorem accepted_sublist (t : Trail) (inputs : List Input) : (t.accepted inputs).Sublist inputs := by
  induction inputs generalizing t with
  | nil => exact List.Sublist.refl []
  | cons input rest ih =>
      cases hadvance : t.advance input with
      | ok next =>
          rw [accepted_cons_of_ok hadvance]
          exact (ih next).cons_cons input
      | error misstep =>
          rw [accepted_cons_of_error hadvance]
          exact (ih t).cons input

theorem accepted_eq_nil (h : ∀ input next, ¬ t.current.Moves input next) (inputs : List Input) :
    t.accepted inputs = [] := by
  induction inputs with
  | nil => rfl
  | cons input rest ih =>
      cases hadvance : t.advance input with
      | ok next =>
          obtain ⟨s, hmove, -⟩ := advance_eq_ok_iff.1 hadvance
          exact absurd hmove (h input s)
      | error misstep =>
          rw [accepted_cons_of_error hadvance]
          exact ih

/-- After the commit of a subordinate host only its refresh is accepted, and only once. -/
theorem accepted_of_committed (h : t.current = .committed true) (inputs : List Input) :
    t.accepted inputs = (inputs.filter (· = .dnsRefreshEnqueued)).take 1 := by
  induction inputs with
  | nil => rfl
  | cons input rest ih =>
      by_cases hrefresh : input = .dnsRefreshEnqueued
      · subst hrefresh
        have hmove : t.current.Moves .dnsRefreshEnqueued .dnsTriggered := by
          rw [h]
          exact .trigger
        rw [accepted_cons_of_ok (advance_eq_ok_iff.2 ⟨_, hmove, rfl⟩),
          accepted_eq_nil fun _ _ => State.not_moves (.inr (.inl rfl))]
        rfl
      · rw [List.filter_cons_of_neg (by simpa using hrefresh), ← ih]
        cases hadvance : t.advance input with
        | ok next =>
            obtain ⟨s, hmove, -⟩ := advance_eq_ok_iff.1 hadvance
            rw [h] at hmove
            cases hmove with
            | trigger => exact absurd rfl hrefresh
            | abort _ hlive => cases hlive
        | error misstep => exact accepted_cons_of_error hadvance rest

/-- A trail whose states have gone up in rank. -/
structure Ascends (t : Trail) : Prop where
  exists_before : ∃ before, t.visited = before ++ [t.current]
  ascending : t.visited.Pairwise fun earlier later => earlier.rank < later.rank
  length_le : t.visited.length ≤ t.current.rank + 1

theorem ascends_start (s : State) : (start s).Ascends :=
  ⟨⟨[], rfl⟩, List.pairwise_singleton _ _, Nat.le_add_left 1 _⟩

theorem Ascends.rank_le (h : t.Ascends) (hs : s ∈ t.visited) : s.rank ≤ t.current.rank := by
  obtain ⟨before, hvisited⟩ := h.exists_before
  have hascending := h.ascending
  rw [hvisited] at hs hascending
  rcases List.mem_append.1 hs with hbefore | hlast
  · exact Nat.le_of_lt ((List.pairwise_append.1 hascending).2.2 s hbefore _ List.mem_cons_self)
  · exact Nat.le_of_eq (congrArg State.rank (List.mem_singleton.1 hlast))

/-- A state of the highest rank can only be the present one. -/
theorem Ascends.eq_current (h : t.Ascends) (hs : s ∈ t.visited) (htop : s.rank = 6) : s = t.current := by
  obtain ⟨before, hvisited⟩ := h.exists_before
  have hascending := h.ascending
  rw [hvisited] at hs hascending
  rcases List.mem_append.1 hs with hbefore | hlast
  · have hlt := (List.pairwise_append.1 hascending).2.2 s hbefore _ List.mem_cons_self
    exact absurd t.current.rank_le (by omega)
  · exact List.mem_singleton.1 hlast

theorem Ascends.advance (h : t.Ascends) (hadvance : t.advance input = .ok next) : next.Ascends := by
  obtain ⟨s, hmove, rfl⟩ := advance_eq_ok_iff.1 hadvance
  have hlt := hmove.rank_lt
  refine ⟨⟨t.visited, rfl⟩, ?_, ?_⟩
  · refine List.pairwise_append.2 ⟨h.ascending, List.pairwise_singleton _ _, fun earlier hearlier later hlater => ?_⟩
    rw [List.mem_singleton.1 hlater]
    exact Nat.lt_of_le_of_lt (h.rank_le hearlier) hlt
  · rw [List.length_append, List.length_singleton]
    exact Nat.add_le_add_right (Nat.le_trans h.length_le hlt) 1

theorem Ascends.nodup_names (h : t.Ascends) : t.names.Nodup :=
  List.pairwise_map.2 (h.ascending.imp State.text_ne_of_rank_lt)

/-- What holds at the start and is kept with every input that is accepted holds after any sequence of inputs. -/
theorem feed_induction {P : Trail → List Input → Prop} (hstart : P t [])
    (hstep : ∀ {t next : Trail} {taken : List Input} {input : Input}, P t taken → t.advance input = .ok next →
      P next (taken ++ [input])) (inputs : List Input) : P (t.feed inputs) (t.accepted inputs) := by
  have hlater (inputs : List Input) :
      ∀ t taken, P t taken → P (t.feed inputs) (taken ++ t.accepted inputs) := by
    induction inputs with
    | nil =>
        intro t taken h
        rw [accepted, List.append_nil]
        exact h
    | cons input rest ih =>
        intro t taken h
        rw [feed_cons]
        cases hadvance : t.advance input with
        | ok next =>
            rw [take_of_ok hadvance, accepted_cons_of_ok hadvance, List.append_cons]
            exact ih next _ (hstep h hadvance)
        | error misstep =>
            rw [take_of_error hadvance, accepted_cons_of_error hadvance]
            exact ih t taken h
  exact hlater inputs t [] hstart

/-- What has led to the present state is what was accepted. -/
theorem recalls_feed (inputs : List Input) :
    ((start .received).feed inputs).current.Recalls ((start .received).accepted inputs) := by
  refine feed_induction (P := fun t taken => t.current.Recalls taken) (t := start .received) .received ?_ inputs
  intro t next taken input hrecalls hadvance
  obtain ⟨s, hmove, rfl⟩ := advance_eq_ok_iff.1 hadvance
  exact hrecalls.move hmove

theorem ascends_feed (inputs : List Input) : ((start .received).feed inputs).Ascends :=
  feed_induction (P := fun t _ => t.Ascends) (ascends_start .received) Ascends.advance inputs

end Trail

/-- A request that is given any sequence of inputs keeps the trail of those that are accepted. It passes at most seven
states, all of different names. Where it has ended nothing more is accepted, except once the refresh of a subordinate
host that was committed. A refresh is handed in only for a host that was classified as subordinate and committed, and a
request is aborted only by a failure before its transaction has ended. -/
theorem lifecycle_linear (inputs : List Input) :
    let t := (Trail.start .received).feed inputs
    let taken := (Trail.start .received).accepted inputs
    (∀ input, ∃ event, (Flow.advance input).run.run t = (Flow.perform (.report event)).run.run (t.take input)) ∧
    (∀ input misstep, t.advance input = .error misstep → t.take input = t) ∧
    (taken.Sublist inputs ∧ (Trail.start .received).feed taken = t ∧ (Trail.start .received).accepted taken = taken) ∧
    (t.names.Nodup ∧ t.names.length ≤ 7) ∧
    (∀ more, (t.current = .rolledBack ∨ t.current = .dnsTriggered ∨ (∃ refusal, t.current = .aborted refusal) ∨
      t.current = .committed false) → t.accepted more = []) ∧
    (∀ more, t.current = .committed true → t.accepted more = (more.filter (· = .dnsRefreshEnqueued)).take 1) ∧
    (.dnsTriggered ∈ t.visited → ∃ before, taken = before ++ [.dnsRefreshEnqueued] ∧
      .classified true ∈ before ∧ .classified false ∉ before ∧ .transactionCommitted ∈ before) ∧
    ∀ refusal, .aborted refusal ∈ t.visited → ∃ before, taken = before ++ [.failed refusal] ∧
      .transactionCommitted ∉ before ∧ .transactionRolledBack ∉ before := by
  intro t taken
  have hascends : t.Ascends := Trail.ascends_feed inputs
  have hrecalls : t.current.Recalls taken := Trail.recalls_feed inputs
  obtain ⟨hfeed, haccepted⟩ := (Trail.start .received).feed_accepted inputs
  refine ⟨fun input => ?_, fun _ _ => Trail.take_of_error,
    ⟨Trail.accepted_sublist _ inputs, hfeed, haccepted⟩, ⟨hascends.nodup_names, ?_⟩,
    fun more hclosed => Trail.accepted_eq_nil (fun _ _ => State.not_moves hclosed) more,
    fun more hcommitted => Trail.accepted_of_committed hcommitted more, fun htriggered => ?_,
    fun refusal haborted => ?_⟩
  · cases hadvance : t.advance input with
    | ok next =>
        rw [Trail.take_of_ok hadvance]
        exact ⟨_, Flow.run_advance_ok hadvance⟩
    | error misstep =>
        rw [Trail.take_of_error hadvance]
        exact ⟨_, Flow.run_advance_error hadvance⟩
  · have hrank := t.current.rank_le
    have hlength := hascends.length_le
    rw [Trail.names, List.length_map]
    omega
  · rw [← hascends.eq_current htriggered rfl] at hrecalls
    generalize taken = accepted at hrecalls
    cases hrecalls
    exact ⟨_, rfl, by decide, by decide, by decide⟩
  · rw [← hascends.eq_current haborted rfl] at hrecalls
    generalize taken = accepted at hrecalls
    cases hrecalls with
    | @aborted _ subordinate stages hstages =>
        have hopening (input : Input) (h : input ∉ State.opening subordinate) : input ∉ stages :=
          fun hmem => h (hstages.subset hmem)
        exact ⟨stages, rfl, hopening _ (by simp [State.opening]), hopening _ (by simp [State.opening])⟩

/-- The longest trail, with inputs in between that come too early or too often. -/
example : ((Trail.start .received).feed [.nameValidated, .dnsRefreshEnqueued, .nameValidated, .classified true,
    .constraintsPassed, .transactionCommitted, .transactionStarted, .transactionCommitted, .failed .notLoggedIn,
    .dnsRefreshEnqueued, .dnsRefreshEnqueued]).names = ["received", "validated", "classified", "constraints_checked",
      "transacting", "committed", "dns_triggered"] := by
  decide +kernel

end Bailiwick.Create
