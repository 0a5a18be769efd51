import Bailiwick.Proofs.Create.Commit
import Bailiwick.Proofs.Turns

/-!
Runs of creates. Any number of creates take turns at a registry, with edits of the store between them. Each
request has the number of its submission; every turn that commits anything is the commit of one of them.
-/

namespace Bailiwick.Create

/-- What may happen at a registry that creates hosts. -/
inductive Act where
  | edit (e : Store.Edit)
  | submit (q : Request)
  | turn (number : Nat) (surroundings : Surroundings)

def Act.move : Act → Move (Except Refusal Response)
  | .edit e => .edit e
  | .submit q => .submit q.work
  | .turn number surroundings => .turn number surroundings

def moves (acts : List Act) : List (Move (Except Refusal Response)) := acts.map Act.move

/-- The requests of a run by their numbers. -/
def requested (acts : List Act) : List Request :=
  acts.filterMap fun act =>
    match act with
    | .submit q => some q
    | _ => none

/-- A registry before its first request. -/
def opened (w : World) : Registry (Except Refusal Response) := { world := w }

variable {c : Company} {acts : List Act}

theorem length_requests_move (r : Registry (Except Refusal Response)) (act : Act) :
    (r.move act.move).requests.length = r.requests.length + (requested [act]).length := by
  cases act with
  | edit e => rfl
  | submit q => exact List.length_append
  | turn number surroundings =>
      rcases r.turn?_cases number surroundings with ⟨hstay, -⟩ | ⟨op, next, hk⟩
      · rw [Act.move, hstay]
        rfl
      · rw [Act.move, Registry.move_turn hk]
        exact List.length_set

theorem requested_cons (act : Act) (acts : List Act) :
    requested (act :: acts) = requested [act] ++ requested acts := by
  rw [requested, ← List.singleton_append, List.filterMap_append]
  rfl

theorem admits_moves (hacts : ∀ act ∈ acts, c.Admits act.move) : ∀ m ∈ moves acts, c.Admits m :=
  List.forall_mem_map.2 hacts

theorem moves_cons (act : Act) (acts : List Act) : moves (act :: acts) = act.move :: moves acts := rfl

theorem moves_append (before rest : List Act) : moves (before ++ rest) = moves before ++ moves rest := List.map_append

theorem requested_append (before rest : List Act) : requested (before ++ rest) = requested before ++ requested rest :=
  List.filterMap_append

theorem length_requests_play (r : Registry (Except Refusal Response)) (acts : List Act) :
    (r.play (moves acts)).requests.length = r.requests.length + (requested acts).length := by
  induction acts generalizing r with
  | nil => rfl
  | cons act acts ih =>
      calc ((r.move act.move).play (moves acts)).requests.length
          = (r.move act.move).requests.length + (requested acts).length := ih (r.move act.move)
        _ = r.requests.length + (requested [act]).length + (requested acts).length := by rw [length_requests_move]
        _ = r.requests.length + (requested (act :: acts)).length := by
            rw [requested_cons act acts, List.length_append, Nat.add_assoc]

/-- Every turn of a run is a turn of a request that was submitted. -/
theorem lt_of_mem_turns {r : Registry (Except Refusal Response)} {number : Nat} {turn : Turn}
    (h : (number, turn) ∈ r.turns (moves acts)) : number < r.requests.length + (requested acts).length := by
  induction acts generalizing r with
  | nil => cases h
  | cons act acts ih =>
      rw [requested_cons, List.length_append]
      rcases List.mem_append.1 h with hfirst | hrest
      · have hlt := (Registry.world_of_turn? (Option.mem_toList.1 hfirst)).1
        omega
      · have hlt := ih hrest
        rw [length_requests_move] at hlt
        omega

/-- The submission of a request divides a run. -/
theorem exists_submit {k : Nat} {q : Request} (hq : (requested acts)[k]? = some q) :
    ∃ before rest, acts = before ++ .submit q :: rest ∧ (requested before).length = k := by
  induction acts generalizing k with
  | nil => cases hq
  | cons act acts ih =>
      rw [requested_cons] at hq
      by_cases hk : k < (requested [act]).length
      · -- The request is the one that is submitted now.
        rw [List.getElem?_append_left hk] at hq
        cases act with
        | edit e => cases hq
        | turn number surroundings => cases hq
        | submit q' =>
            obtain rfl : k = 0 := Nat.lt_one_iff.1 hk
            obtain rfl : q' = q := Option.some.inj hq
            exact ⟨[], acts, rfl, rfl⟩
      · rw [List.getElem?_append_right (Nat.not_lt.1 hk)] at hq
        obtain ⟨before, rest, rfl, hlength⟩ := ih hq
        refine ⟨act :: before, rest, rfl, ?_⟩
        rw [requested_cons, List.length_append]
        omega

/-- With its submission all the work of a request is to be done, and no turn of it has been. -/
theorem requests_submit (r : Registry (Except Refusal Response)) (before : List Act) (q : Request) :
    (r.play (moves (before ++ [.submit q]))).requests[r.requests.length + (requested before).length]?
      = some q.work ∧
    ∀ turn, (r.requests.length + (requested before).length, turn) ∉ r.turns (moves (before ++ [.submit q])) := by
  constructor
  · rw [moves_append, Registry.play_append, ← length_requests_play]
    exact List.getElem?_concat_length
  · intro turn hturn
    rw [moves_append, Registry.turns_append] at hturn
    rcases List.mem_append.1 hturn with hbefore | hnow
    · exact Nat.lt_irrefl _ (lt_of_mem_turns hbefore)
    · cases hnow

theorem requests_submit_opened (w : World) (before : List Act) (q : Request) :
    ((opened w).play (moves (before ++ [.submit q]))).requests[(requested before).length]? = some q.work ∧
      ∀ turn, ((requested before).length, turn) ∉ (opened w).turns (moves (before ++ [.submit q])) := by
  have hsubmit := requests_submit (opened w) before q
  have hnumber : (opened w).requests.length + (requested before).length = (requested before).length := Nat.zero_add _
  rw [hnumber] at hsubmit
  exact hsubmit

/-- A request is submitted in a run before it has any turn. -/
theorem exists_submission {r : Registry (Except Refusal Response)} {k : Nat} {q : Request}
    (hq : (requested acts)[k]? = some q) :
    ∃ here rest, acts = here ++ rest ∧ (r.play (moves here)).requests[r.requests.length + k]? = some q.work ∧
      ∀ turn, (r.requests.length + k, turn) ∉ r.turns (moves here) := by
  obtain ⟨before, rest, rfl, rfl⟩ := exists_submit hq
  exact ⟨before ++ [.submit q], rest, List.append_cons .., requests_submit r before q⟩

/-- In a run every request takes one of its courses, as far as it has come. -/
theorem ensures_requested (hc : c.Grows) (hacts : ∀ act ∈ acts, c.Admits act.move)
    {r : Registry (Except Refusal Response)} {k : Nat} {q : Request} (hq : (requested acts)[k]? = some q) :
    ∃ p u, (r.play (moves acts)).requests[r.requests.length + k]? = some p ∧ c.changes r.world u ∧
      p.Ensures c (fun more now result => ∃ v trail,
        (∃ zone, Course c q u zone (r.effects (moves acts) (r.requests.length + k) ++ more) v result trail) ∧
          c.changes v now)
        (r.play (moves acts)).world := by
  obtain ⟨here, rest, rfl, hp, hnone⟩ := exists_submission (r := r) hq
  have hhere : ∀ act ∈ here, c.Admits act.move := fun a ha => hacts a (List.mem_append_left rest ha)
  have hrest : ∀ act ∈ rest, c.Admits act.move := fun a ha => hacts a (List.mem_append_right here ha)
  rw [moves_append, Registry.play_append, Registry.effects_append, Registry.effects_eq_nil hnone, List.nil_append]
  obtain ⟨p, hp', h⟩ := Registry.ensures_play (admits_moves hrest) hp (ensures_work hc q _)
  exact ⟨p, _, hp', Registry.changes_play (admits_moves hhere), h⟩

/-- In a run from an empty registry every request takes one of its courses, as far as it has come. -/
theorem ensures_opened (hc : c.Grows) (hacts : ∀ act ∈ acts, c.Admits act.move) {w : World} {number : Nat}
    {q : Request} (hq : (requested acts)[number]? = some q) :
    ∃ p u, ((opened w).play (moves acts)).requests[number]? = some p ∧ c.changes w u ∧
      p.Ensures c (fun more now result => ∃ v trail,
        (∃ zone, Course c q u zone ((opened w).effects (moves acts) number ++ more) v result trail) ∧
          c.changes v now)
        ((opened w).play (moves acts)).world := by
  have h := ensures_requested hc hacts (r := opened w) hq
  have hnumber : (opened w).requests.length + number = number := Nat.zero_add number
  rw [hnumber] at h
  exact h

/-- Every commit of a run is the commit of a request that was submitted; it is the only commit of that request,
and settles what the request answers. -/
theorem makes_of_mem_commits (hc : c.Grows) (hmeets : ∃ surroundings, c.meets surroundings)
    (hacts : ∀ act ∈ acts, c.Admits act.move) {w : World} {number : Nat} {turn : Turn}
    (h : (number, turn) ∈ (opened w).commits (moves acts)) :
    ∃ q u client name zone placement addresses attempt created, (requested acts)[number]? = some q ∧
      c.changes w u ∧ Makes c q u turn client name zone placement addresses attempt created ∧
      (∀ other, (number, other) ∈ (opened w).commits (moves acts) → other = turn) ∧
      ∀ result, ((opened w).play (moves acts)).requests[number]? = some (.done result) →
        result = .ok (.ofCreated created false) := by
  have hlt : number < 0 + (requested acts).length := lt_of_mem_turns (Registry.mem_commits.1 h).1
  rw [Nat.zero_add] at hlt
  have hq := List.getElem?_eq_getElem hlt
  obtain ⟨p, u, hp, hu, hensures⟩ := ensures_opened hc hacts (w := w) hq
  obtain ⟨surroundings, hmeets⟩ := hmeets
  obtain ⟨more, v, trail, ⟨zone, hcourse⟩, -⟩ := hensures.exists_end hmeets
  have heffect (other : Turn) (hother : (number, other) ∈ (opened w).commits (moves acts)) :
      other ∈ (opened w).effects (moves acts) number ++ more :=
    List.mem_append_left more (Registry.mem_effects_of_mem_commits hother)
  obtain ⟨client, name, placement, addresses, attempt, created, hmakes, honly, hresult⟩ :=
    hcourse.makes_of_mem (heffect turn h) (Registry.mem_commits.1 h).2
  refine ⟨_, u, client, name, zone, placement, addresses, attempt, created, hq, hu, hmakes, ?_, ?_⟩
  · exact fun other hother => honly other (heffect other hother) (Registry.mem_commits.1 hother).2
  · intro result hdone
    obtain rfl := Option.some.inj (hp.symm.trans hdone)
    exact hresult

/-- A request that is no dry run and has succeeded has committed. -/
theorem exists_commit_of_done (hc : c.Grows) (hacts : ∀ act ∈ acts, c.Admits act.move) {w : World} {number : Nat}
    {q : Request} {response : Response} (hq : (requested acts)[number]? = some q)
    (hreal : q.context.dryRun = false)
    (hdone : ((opened w).play (moves acts)).requests[number]? = some (.done (.ok response))) :
    ∃ turn, (number, turn) ∈ (opened w).commits (moves acts) := by
  obtain ⟨p, u, hp, hu, hensures⟩ := ensures_opened hc hacts (w := w) hq
  obtain rfl := Option.some.inj (hp.symm.trans hdone)
  obtain ⟨v, trail, ⟨zone, hcourse⟩, -⟩ := hensures _ (c.refl _)
  rw [List.append_nil] at hcourse
  rcases hcourse.makes_or_quiet with ⟨turn, rest, client, name, placement, addresses, attempt, created,
    hturns, hmakes, -⟩ | ⟨-, hdry⟩
  · have hmem : turn ∈ (opened w).effects (moves acts) number := by
      rw [hturns]
      exact List.mem_cons_self
    exact ⟨turn, Registry.mem_commits.2 ⟨(Registry.mem_effects.1 hmem).1, hmakes.commits⟩⟩
  · rw [hdry response rfl] at hreal
    cases hreal

end Bailiwick.Create
