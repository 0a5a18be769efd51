import Bailiwick.Proofs.Create.Replay

/-!
Failure atomicity. A request that ends in a refusal or a fault, after however many attempts at its transaction,
and a dry run whether it has ended or not leave store, queue and activity as each of their turns finds them. A
success changes the store by the one turn that commits it.
-/

namespace Bailiwick

/-- What work was refused for, once it is done. -/
def Work.refusal? {α : Type} : Work (Except Refusal α) → Option Refusal
  | .done (.error refusal) => some refusal
  | _ => none

theorem Work.eq_done_of_refusal? {α : Type} {p : Work (Except Refusal α)} {refusal : Refusal}
    (h : p.refusal? = some refusal) : p = .done (.error refusal) := by
  cases p with
  | step op next => cases h
  | done result =>
      cases result with
      | ok value => cases h
      | error other => rw [Option.some.inj h]

namespace Create

variable {c : Company} {q : Request} {u now : World} {zone : Option String} {w : World} {acts : List Act}
  {number : Nat}

/-- A course that ends in an error or belongs to a dry run has no turns but quiet ones. -/
theorem Course.turns_eq_nil {turns : List Turn} {result : Except Refusal Response} {trail : Trail}
    (h : Course c q u zone turns now result trail)
    (hvain : q.context.dryRun = true ∨ ∃ refusal, result = .error refusal) : turns = [] := by
  rcases h.makes_or_quiet with ⟨turn, more, client, name, placement, addresses, attempt, created, -, hmakes, -,
    hresult⟩ | ⟨hnone, -⟩
  · rcases hvain with hdry | ⟨refusal, hrefused⟩
    · rw [hmakes.real] at hdry
      cases hdry
    · rw [hresult] at hrefused
      cases hrefused
  · exact hnone

/-- A request of a run that has returned an error or is a dry run has had no turns but quiet ones. -/
theorem effects_eq_nil (hq : (requested acts)[number]? = some q)
    (hvain : q.context.dryRun = true ∨
      ∃ refusal, ((opened w).play (moves acts)).requests[number]? = some (.done (.error refusal))) :
    (opened w).effects (moves acts) number = [] := by
  obtain ⟨p, u, hp, -, hensures⟩ := ensures_opened Company.anyone_grows (anyone_admits acts) (w := w) hq
  rcases hvain with hdry | ⟨refusal, hdone⟩
  · have hcalm : Company.anyone.meets .calm := trivial
    obtain ⟨more, v, trail, ⟨zone, hcourse⟩, -⟩ := hensures.exists_end hcalm
    exact (List.append_eq_nil_iff.1 (hcourse.turns_eq_nil (.inl hdry))).1
  · obtain rfl := Option.some.inj (hp.symm.trans hdone)
    obtain ⟨v, trail, ⟨zone, hcourse⟩, -⟩ := hensures _ (Company.anyone.refl _)
    exact (List.append_eq_nil_iff.1 (hcourse.turns_eq_nil (.inr ⟨refusal, rfl⟩))).1

/-- A turn that does not count leaves store, queue and activity alone. -/
theorem alike_of_effects_eq_nil {turn : Turn} (hnone : (opened w).effects (moves acts) number = [])
    (h : (number, turn) ∈ (opened w).turns (moves acts)) : turn.world.Alike turn.after := by
  cases hquiet : turn.isQuiet with
  | true => exact Turn.alike_of_isQuiet hquiet
  | false =>
      have hmem := Registry.mem_effects.2 ⟨h, hquiet⟩
      rw [hnone] at hmem
      cases hmem

/-- In a run a request that has succeeded and is no dry run has changed the store by its commit alone. -/
theorem exists_only_commit {response : Response} (hq : (requested acts)[number]? = some q)
    (hreal : q.context.dryRun = false)
    (hdone : ((opened w).play (moves acts)).requests[number]? = some (.done (.ok response))) :
    ∃ turn, (number, turn) ∈ (opened w).commits (moves acts) ∧
      ∀ other, (number, other) ∈ (opened w).turns (moves acts) → other ≠ turn →
        other.after.store = other.world.store := by
  obtain ⟨turn, hturn⟩ := exists_commit_of_done Company.anyone_grows (anyone_admits acts) hq hreal hdone
  obtain ⟨_, _, _, _, _, _, _, _, _, -, -, -, honly, -⟩ :=
    makes_of_mem_commits Company.anyone_grows ⟨.calm, trivial⟩ (anyone_admits acts) hturn
  refine ⟨turn, hturn, fun other hother hne => ?_⟩
  cases hcommits : other.commits with
  | false => exact Turn.store_after_of_not_commits hcommits
  | true => exact absurd (honly other (Registry.mem_commits.2 ⟨hother, hcommits⟩)) hne

/-- In every run of creates, edits and turns in any order a request that returns an error or is a dry run leaves
store, queue and activity alike in every turn that it has, and one that succeeds otherwise changes the store in
one turn only, by which it commits. -/
theorem createHost_atomic (w : World) (acts : List Act) {number : Nat} {q : Request}
    (hq : (requested acts)[number]? = some q) :
    let final := (opened w).play (moves acts)
    ((q.context.dryRun = true ∨ ∃ refusal, final.requests[number]? = some (.done (.error refusal))) →
      ∀ turn, (number, turn) ∈ (opened w).turns (moves acts) → turn.world.Alike turn.after) ∧
    (q.context.dryRun = false → ∀ response, final.requests[number]? = some (.done (.ok response)) →
      ∃ turn, (number, turn) ∈ (opened w).commits (moves acts) ∧
        ∀ other, (number, other) ∈ (opened w).turns (moves acts) → other ≠ turn →
          other.after.store = other.world.store) := by
  refine ⟨fun hvain turn hturn => ?_, fun hreal response hdone => exists_only_commit hq hreal hdone⟩
  exact alike_of_effects_eq_nil (effects_eq_nil hq hvain) hturn

/-- Two clients ask for one host, and the attempts of both run into a new row of its domain; of their second
attempts the later finds the name taken. -/
theorem createHost_atomic_racing :
    let final := (opened { store := delegated }).play (moves racing)
    (requested racing)[1]? = some (glued ⟨"NewRegistrar"⟩ [⟨.v4, "192.0.2.2"⟩]) ∧
      final.requests[1]? = some (.done (.error (.createContention "ns1.example.tld"))) ∧
      ∀ turn, (1, turn) ∈ (opened { store := delegated }).turns (moves racing) → turn.world.Alike turn.after := by
  intro final
  have hdone : final.requests[1]? = some (.done (.error (.createContention "ns1.example.tld"))) := by
    have hrefusal : final.requests[1]?.bind Work.refusal? = some (.createContention "ns1.example.tld") := by
      decide +kernel
    obtain ⟨p, hp, hp'⟩ := Option.bind_eq_some_iff.1 hrefusal
    rw [hp, Work.eq_done_of_refusal? hp']
  have hrequested : (requested racing)[1]? = some (glued ⟨"NewRegistrar"⟩ [⟨.v4, "192.0.2.2"⟩]) := rfl
  exact ⟨hrequested, hdone, (createHost_atomic { store := delegated } racing hrequested).1 (.inr ⟨_, hdone⟩)⟩

end Create

end Bailiwick
