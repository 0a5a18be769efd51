import Bailiwick.Proofs.Interference
import Bailiwick.Registry

/-!
The turns of a registry. A run of a registry is a list of moves; every turn in it is recorded with the
world that it met. What a request ensures in company it ensures as one of many requests, as long as the
company admits the edits and the surroundings of the run.
-/

namespace Bailiwick

/-- What a move does is among what may go on in a company. -/
def Company.Admits (c : Company) {α : Type} : Move α → Prop
  | .edit e => ∀ w : World, c.changes w (w.edit e)
  | .submit _ => True
  | .turn _ surroundings => c.meets surroundings ∧ ∀ w op, c.changes w (w.perform surroundings op).1

theorem Company.anyone_admits {α : Type} (m : Move α) : Company.anyone.Admits m := by
  cases m with
  | edit e => exact fun w => w.store.later_edit e
  | submit work => trivial
  | turn number surroundings => exact ⟨trivial, fun w op => w.later_perform surroundings op⟩

namespace Registry

variable {α : Type} {c : Company}

/-- The turn that a move gives to a request, unless the request is finished. -/
def turn? (r : Registry α) : Move α → Option (Nat × Turn)
  | .turn number surroundings =>
    match r.requests[number]? with
    | some (.step op _) => some (number, ⟨r.world, surroundings, op⟩)
    | _ => none
  | _ => none

/-- The turns of a run in order, each with the number of the request that had it. -/
def turns (r : Registry α) : List (Move α) → List (Nat × Turn)
  | [] => []
  | m :: moves => (r.turn? m).toList ++ (r.move m).turns moves

/-- The turns of one request that were not quiet. -/
def effects (r : Registry α) (moves : List (Move α)) (number : Nat) : List Turn :=
  (r.turns moves).flatMap fun (k, turn) => if k = number then turn.mark else []

/-- The turns of a run by which transactions were committed, each with the number of the request. -/
def commits (r : Registry α) (moves : List (Move α)) : List (Nat × Turn) :=
  (r.turns moves).filter fun step => step.2.commits

theorem mem_commits {r : Registry α} {moves : List (Move α)} {number : Nat} {turn : Turn} :
    (number, turn) ∈ r.commits moves ↔ (number, turn) ∈ r.turns moves ∧ turn.commits = true :=
  List.mem_filter

theorem mem_effects {r : Registry α} {moves : List (Move α)} {number : Nat} {turn : Turn} :
    turn ∈ r.effects moves number ↔ (number, turn) ∈ r.turns moves ∧ turn.isQuiet = false := by
  simp only [effects, List.mem_flatMap, Prod.exists]
  constructor
  · rintro ⟨k, t, hmem, ht⟩
    by_cases hk : k = number
    · rw [if_pos hk, Turn.mark] at ht
      cases hquiet : t.isQuiet with
      | true => simp [hquiet] at ht
      | false =>
          simp only [hquiet, Bool.false_eq_true, if_false, List.mem_singleton] at ht
          subst hk ht
          exact ⟨hmem, hquiet⟩
    · rw [if_neg hk] at ht
      cases ht
  · rintro ⟨hmem, hquiet⟩
    refine ⟨number, turn, hmem, ?_⟩
    simp [Turn.mark, hquiet]

/-- A commit is a turn that counts. -/
theorem mem_effects_of_mem_commits {r : Registry α} {moves : List (Move α)} {number : Nat} {turn : Turn}
    (h : (number, turn) ∈ r.commits moves) : turn ∈ r.effects moves number := by
  obtain ⟨hturn, hcommits⟩ := mem_commits.1 h
  exact mem_effects.2 ⟨hturn, Turn.isQuiet_of_commits hcommits⟩

/-- A turn is idle, or carries out the next operation of a request. -/
theorem turn?_cases (r : Registry α) (k : Nat) (surroundings : Surroundings) :
    (r.move (.turn k surroundings) = r ∧ r.turn? (.turn k surroundings) = none) ∨
      ∃ op next, r.requests[k]? = some (Work.step op next) := by
  cases hk : r.requests[k]? with
  | none => exact .inl ⟨by simp only [move, hk], by simp only [turn?, hk]⟩
  | some work =>
      cases work with
      | step op next => exact .inr ⟨op, next, rfl⟩
      | done value =>
          refine .inl ⟨?_, by simp only [turn?, hk]⟩
          obtain ⟨hlt, hget⟩ := List.getElem?_eq_some_iff.1 hk
          simp only [move, hk, Work.advance]
          rw [← hget, List.set_getElem_self hlt]

theorem move_turn {r : Registry α} {k : Nat} {op : Op} {next : op.Answer → Work α}
    (hk : r.requests[k]? = some (.step op next)) (surroundings : Surroundings) :
    r.move (.turn k surroundings) = ⟨(r.world.perform surroundings op).1,
      r.requests.set k (next (r.world.perform surroundings op).2)⟩ := by
  simp only [move, hk, Work.advance]

theorem effects_turn {r : Registry α} {k : Nat} {op : Op} {next : op.Answer → Work α}
    (hk : r.requests[k]? = some (.step op next)) (surroundings : Surroundings) (number : Nat) :
    r.effects [.turn k surroundings] number
      = if k = number then Turn.mark ⟨r.world, surroundings, op⟩ else [] := by
  simp only [effects, turns, turn?, hk, Option.toList_some, List.append_nil, List.flatMap_cons,
    List.flatMap_nil]

theorem changes_move {r : Registry α} {m : Move α} (hm : c.Admits m) : c.changes r.world (r.move m).world := by
  cases m with
  | edit e => exact hm r.world
  | submit work => exact c.refl r.world
  | turn k surroundings =>
      rcases turn?_cases r k surroundings with ⟨hstay, -⟩ | ⟨op, next, hk⟩
      · rw [hstay]
        exact c.refl r.world
      · rw [move_turn hk]
        exact hm.2 r.world op

theorem changes_play {r : Registry α} {moves : List (Move α)} (hmoves : ∀ m ∈ moves, c.Admits m) :
    c.changes r.world (r.play moves).world := by
  induction moves generalizing r with
  | nil => exact c.refl r.world
  | cons m moves ih =>
      have hrest : ∀ m' ∈ moves, c.Admits m' := fun m' hm' => hmoves m' (List.mem_cons_of_mem m hm')
      exact c.trans (changes_move (hmoves m List.mem_cons_self)) (ih hrest)

/-- The turn that a move gives meets the present world and leaves the next. -/
theorem world_of_turn? {r : Registry α} {m : Move α} {number : Nat} {turn : Turn}
    (h : r.turn? m = some (number, turn)) :
    number < r.requests.length ∧ turn.world = r.world ∧ turn.after = (r.move m).world := by
  cases m with
  | edit e => cases h
  | submit work => cases h
  | turn k surroundings =>
      rcases turn?_cases r k surroundings with ⟨-, hidle⟩ | ⟨op, next, hk⟩
      · rw [hidle] at h
        cases h
      · have hlt : k < r.requests.length := (List.getElem?_eq_some_iff.1 hk).1
        rw [move_turn hk]
        simp only [turn?, hk, Option.some.injEq, Prod.mk.injEq] at h
        obtain ⟨rfl, rfl⟩ := h
        exact ⟨hlt, rfl, rfl⟩

/-- The commit that a move makes, if it makes one. -/
def commit? (r : Registry α) (m : Move α) : Option (Nat × Turn) :=
  (r.turn? m).filter fun step => step.2.commits

theorem commits_cons (r : Registry α) (m : Move α) (moves : List (Move α)) :
    r.commits (m :: moves) = (r.commit? m).toList ++ (r.move m).commits moves := by
  rw [commits, turns, List.filter_append, commit?]
  cases r.turn? m with
  | none => rfl
  | some step =>
      rw [Option.filter_some, Option.toList_some, List.filter_cons]
      cases step.2.commits <;> rfl

theorem commits_cons_of_commit? {r : Registry α} {m : Move α} {step : Nat × Turn} (h : r.commit? m = some step)
    (moves : List (Move α)) : r.commits (m :: moves) = step :: (r.move m).commits moves := by
  rw [commits_cons, h]
  rfl

/-- The move of a request commits, or leaves the store alone. -/
theorem commit?_cases (r : Registry α) (k : Nat) (surroundings : Surroundings) :
    (r.commit? (.turn k surroundings) = none ∧ (r.move (.turn k surroundings)).world.store = r.world.store) ∨
      ∃ turn, r.commit? (.turn k surroundings) = some (k, turn) ∧ turn.world = r.world ∧
        turn.after = (r.move (.turn k surroundings)).world := by
  rcases turn?_cases r k surroundings with ⟨hstay, hidle⟩ | ⟨op, next, hk⟩
  · rw [commit?, hidle, hstay]
    exact .inl ⟨rfl, rfl⟩
  · have hturn : r.turn? (.turn k surroundings) = some (k, ⟨r.world, surroundings, op⟩) := by simp only [turn?, hk]
    obtain ⟨-, hmet, hleft⟩ := world_of_turn? hturn
    rw [commit?, hturn]
    cases hcommits : Turn.commits ⟨r.world, surroundings, op⟩ with
    | true => exact .inr ⟨_, Option.filter_some_pos hcommits, hmet, hleft⟩
    | false =>
        refine .inl ⟨Option.filter_some_neg hcommits, ?_⟩
        rw [← hleft]
        exact Turn.store_after_of_not_commits hcommits

/-- Every turn of a run meets a world that may follow the first. -/
theorem changes_of_mem_turns {r : Registry α} {moves : List (Move α)} (hmoves : ∀ m ∈ moves, c.Admits m)
    {number : Nat} {turn : Turn} (h : (number, turn) ∈ r.turns moves) : c.changes r.world turn.world := by
  induction moves generalizing r with
  | nil => cases h
  | cons m moves ih =>
      rcases List.mem_append.1 h with hfirst | hrest
      · have hturn := world_of_turn? (Option.mem_toList.1 hfirst)
        exact c.alike (hturn.2.1 ▸ World.Alike.refl _)
      · exact c.trans (changes_move (hmoves m List.mem_cons_self))
          (ih (fun m' hm' => hmoves m' (List.mem_cons_of_mem m hm')) hrest)

/-- Of two turns of a run the later meets a world that may follow what the earlier leaves. -/
theorem pairwise_turns {r : Registry α} {moves : List (Move α)} (hmoves : ∀ m ∈ moves, c.Admits m) :
    (r.turns moves).Pairwise fun earlier later => c.changes earlier.2.after later.2.world := by
  induction moves generalizing r with
  | nil => exact List.Pairwise.nil
  | cons m moves ih =>
      have hrest : ∀ m' ∈ moves, c.Admits m' := fun m' hm' => hmoves m' (List.mem_cons_of_mem m hm')
      rw [turns, List.pairwise_append]
      refine ⟨?_, ih hrest, ?_⟩
      · cases r.turn? m with
        | none => exact List.Pairwise.nil
        | some turn => exact List.pairwise_singleton _ _
      · rintro ⟨k, earlier⟩ hearlier ⟨k', later⟩ hlater
        have hturn := world_of_turn? (Option.mem_toList.1 hearlier)
        have hchanges := changes_of_mem_turns hrest hlater
        rw [← hturn.2.2] at hchanges
        exact hchanges

theorem play_append (r : Registry α) (before rest : List (Move α)) :
    r.play (before ++ rest) = (r.play before).play rest := List.foldl_append

theorem turns_append (r : Registry α) (before rest : List (Move α)) :
    r.turns (before ++ rest) = r.turns before ++ (r.play before).turns rest := by
  induction before generalizing r with
  | nil => rfl
  | cons m before ih => simp only [List.cons_append, turns, ih, List.append_assoc, play, List.foldl_cons]

/-- A move leaves what is left of a request, unless it carries out the next operation of that request. -/
theorem getElem?_requests_move {r : Registry α} {m : Move α} {number : Nat} {p : Work α}
    (hp : r.requests[number]? = some p)
    (hm : ∀ op next surroundings, p = .step op next → m ≠ .turn number surroundings) :
    (r.move m).requests[number]? = some p ∧ ∀ turn, r.turn? m ≠ some (number, turn) := by
  cases m with
  | edit e => exact ⟨hp, fun turn h => by cases h⟩
  | submit work =>
      refine ⟨?_, fun turn h => by cases h⟩
      have hlt : number < r.requests.length := (List.getElem?_eq_some_iff.1 hp).1
      rw [move, List.getElem?_append_left hlt]
      exact hp
  | turn k surroundings =>
      rcases turn?_cases r k surroundings with ⟨hstay, hidle⟩ | ⟨op, next, hk⟩
      · rw [hstay, hidle]
        exact ⟨hp, fun turn h => by cases h⟩
      · have hne : k ≠ number := by
          rintro rfl
          exact hm op next surroundings (Option.some.inj (hp.symm.trans hk)) rfl
        refine ⟨?_, fun turn h => ?_⟩
        · rw [move_turn hk, List.getElem?_set_ne hne]
          exact hp
        · simp only [turn?, hk, Option.some.injEq, Prod.mk.injEq] at h
          exact hne h.1

/-- A request that commits in a run has first carried out its next operation, unless that is the commit. -/
theorem exists_next_turn {r : Registry α} {moves : List (Move α)} {number : Nat} {op : Op}
    {next : op.Answer → Work α} {turn : Turn} (hp : r.requests[number]? = some (.step op next))
    (hop : ∀ a, op ≠ .commit a) (h : (number, turn) ∈ r.commits moves) :
    ∃ here rest u surroundings, moves = here ++ rest ∧ (number, ⟨u, surroundings, op⟩) ∈ r.turns here ∧
      (r.play here).requests[number]? = some (next (u.perform surroundings op).2) ∧
      (number, turn) ∈ (r.play here).commits rest := by
  induction moves generalizing r with
  | nil => cases h
  | cons m moves ih =>
      rw [commits_cons] at h
      have hfirst (hnow : (number, turn) ∈ (r.commit? m).toList) :
          r.turn? m = some (number, turn) ∧ turn.commits = true :=
        Option.filter_eq_some_iff.1 (Option.mem_toList.1 hnow)
      by_cases hm : ∃ surroundings, m = .turn number surroundings
      · obtain ⟨surroundings, rfl⟩ := hm
        have hturn : r.turn? (.turn number surroundings) = some (number, ⟨r.world, surroundings, op⟩) := by
          simp only [turn?, hp]
        refine ⟨[.turn number surroundings], moves, r.world, surroundings, rfl, ?_, ?_, ?_⟩
        · simp only [turns, hturn, Option.toList_some, List.append_nil, List.mem_singleton]
        · rw [play, List.foldl_cons, List.foldl_nil, move_turn hp]
          exact List.getElem?_set_self (List.getElem?_eq_some_iff.1 hp).1
        · rcases List.mem_append.1 h with hnow | hlater
          · obtain ⟨hsame, hcommits⟩ := hfirst hnow
            rw [hturn] at hsame
            cases hsame
            cases op with
            | commit a => exact absurd rfl (hop a)
            | _ => cases hcommits
          · exact hlater
      · obtain ⟨hstay, hother⟩ := getElem?_requests_move hp fun _ _ surroundings _ hm' => hm ⟨surroundings, hm'⟩
        have hlater : (number, turn) ∈ (r.move m).commits moves := by
          rcases List.mem_append.1 h with hnow | hlater
          · exact absurd (hfirst hnow).1 (hother turn)
          · exact hlater
        obtain ⟨here, rest, u, surroundings, rfl, hturn, hnext, hcommit⟩ := ih hstay hlater
        exact ⟨m :: here, rest, u, surroundings, rfl, List.mem_append_right _ hturn, hnext, hcommit⟩

theorem commits_append (r : Registry α) (before rest : List (Move α)) :
    r.commits (before ++ rest) = r.commits before ++ (r.play before).commits rest := by
  rw [commits, turns_append, List.filter_append]
  rfl

theorem effects_append (r : Registry α) (before rest : List (Move α)) (number : Nat) :
    r.effects (before ++ rest) number = r.effects before number ++ (r.play before).effects rest number := by
  simp only [effects, turns_append, List.flatMap_append]

theorem effects_eq_nil {r : Registry α} {moves : List (Move α)} {number : Nat}
    (h : ∀ turn, (number, turn) ∉ r.turns moves) : r.effects moves number = [] :=
  List.eq_nil_iff_forall_not_mem.2 fun turn hmem => h turn (mem_effects.1 hmem).1

/-- One move of a run leaves of a request what it ensures after its effects so far. -/
theorem ensures_move {r : Registry α} {m : Move α} (hm : c.Admits m) {number : Nat} {p : Work α}
    {Q : List Turn → World → α → Prop} (hp : r.requests[number]? = some p) (h : p.Ensures c Q r.world) :
    ∃ p', (r.move m).requests[number]? = some p' ∧
      p'.Ensures c (fun more => Q (r.effects [m] number ++ more)) (r.move m).world := by
  by_cases hturn : ∃ op next surroundings, p = .step op next ∧ m = .turn number surroundings
  · obtain ⟨op, next, surroundings, rfl, rfl⟩ := hturn
    rw [move_turn hp, effects_turn hp, if_pos rfl]
    refine ⟨next (r.world.perform surroundings op).2, ?_, h r.world (c.refl r.world) surroundings hm.1⟩
    exact List.getElem?_set_self (List.getElem?_eq_some_iff.1 hp).1
  · -- Nothing becomes of a request by the moves of others, nor of one that is finished by its own.
    obtain ⟨hstay, hnone⟩ := getElem?_requests_move hp fun op next surroundings hop hm' =>
      hturn ⟨op, next, surroundings, hop, hm'⟩
    have heffects : r.effects [m] number = [] := effects_eq_nil fun turn hmem => by
      simp only [turns, List.append_nil, Option.mem_toList] at hmem
      exact hnone turn hmem
    rw [heffects]
    exact ⟨p, hstay, h.of_changes (changes_move hm)⟩

/-- What a request ensures in company it ensures in every run of a registry. -/
theorem ensures_play {r : Registry α} {moves : List (Move α)} (hmoves : ∀ m ∈ moves, c.Admits m)
    {number : Nat} {p : Work α} {Q : List Turn → World → α → Prop} (hp : r.requests[number]? = some p)
    (h : p.Ensures c Q r.world) :
    ∃ p', (r.play moves).requests[number]? = some p' ∧
      p'.Ensures c (fun more => Q (r.effects moves number ++ more)) (r.play moves).world := by
  induction moves generalizing r p Q with
  | nil => exact ⟨p, hp, h⟩
  | cons m moves ih =>
      obtain ⟨p', hp', h'⟩ := ensures_move (hmoves m List.mem_cons_self) hp h
      rw [← List.singleton_append, effects_append]
      simp only [List.append_assoc]
      exact ih (fun m' hm' => hmoves m' (List.mem_cons_of_mem m hm')) hp' h'

/-- A commit of a request is among the turns for which the request keeps what it ensures. -/
theorem exists_mem_of_mem_commits {r : Registry α} {moves : List (Move α)} {number : Nat} {turn : Turn}
    {p : Work α} {Q : List Turn → World → α → Prop} (hp : r.requests[number]? = some p)
    (h : p.Ensures Company.anyone Q r.world) (hcommit : (number, turn) ∈ r.commits moves) :
    ∃ turns w value, Q turns w value ∧ turn ∈ turns := by
  obtain ⟨p', -, hensures⟩ := ensures_play (fun m _ => Company.anyone_admits m) hp h
  have hcalm : Company.anyone.meets .calm := trivial
  obtain ⟨more, hend⟩ := hensures.exists_end hcalm
  exact ⟨_, _, _, hend, List.mem_append_left more (mem_effects_of_mem_commits hcommit)⟩

end Registry

end Bailiwick
