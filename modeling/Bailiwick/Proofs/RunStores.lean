import Bailiwick.Proofs.Turns

/-!
The stores that a run passes through. A relation of stores that every turn and the edits of the run respect holds
from any moment of the run to any later one.
-/

namespace Bailiwick.Registry

variable {α : Type}

/-- The stores of a run from the first to the last. -/
def stores (r : Registry α) : List (Move α) → List Store
  | [] => [r.world.store]
  | m :: moves => r.world.store :: (r.move m).stores moves

/-- The edits of a run in order, each with the store that it meets. -/
def edits (r : Registry α) : List (Move α) → List (Store × Store.Edit)
  | [] => []
  | .edit e :: moves => (r.world.store, e) :: (r.move (.edit e)).edits moves
  | m :: moves => (r.move m).edits moves

theorem mem_edits_cons {r : Registry α} {m : Move α} {moves : List (Move α)} {s : Store} {e : Store.Edit}
    (h : (s, e) ∈ (r.move m).edits moves) : (s, e) ∈ r.edits (m :: moves) := by
  cases m with
  | edit e => exact List.mem_cons_of_mem _ h
  | submit work => exact h
  | turn k surroundings => exact h

theorem edit_mem_of_mem_edits {r : Registry α} {moves : List (Move α)} {s : Store} {e : Store.Edit}
    (h : (s, e) ∈ r.edits moves) : Move.edit e ∈ moves := by
  induction moves generalizing r with
  | nil => cases h
  | cons m moves ih =>
      cases m with
      | edit e' =>
          rcases List.mem_cons.1 h with heq | hrest
          · cases heq
            exact List.mem_cons_self
          · exact List.mem_cons_of_mem _ (ih hrest)
      | submit work => exact List.mem_cons_of_mem _ (ih h)
      | turn k surroundings => exact List.mem_cons_of_mem _ (ih h)

/-- Every turn meets a store of the run. -/
theorem mem_stores_of_mem_turns {r : Registry α} {moves : List (Move α)} {number : Nat} {turn : Turn}
    (h : (number, turn) ∈ r.turns moves) : turn.world.store ∈ r.stores moves := by
  induction moves generalizing r with
  | nil => cases h
  | cons m moves ih =>
      rcases List.mem_append.1 h with hfirst | hrest
      · rw [(world_of_turn? (Option.mem_toList.1 hfirst)).2.1]
        exact List.mem_cons_self
      · exact List.mem_cons_of_mem _ (ih hrest)

theorem play_mem_stores (r : Registry α) (moves : List (Move α)) :
    (r.play moves).world.store ∈ r.stores moves := by
  induction moves generalizing r with
  | nil => exact List.mem_cons_self
  | cons m moves ih => exact List.mem_cons_of_mem _ (ih (r.move m))

section Relation

variable {R : Store → Store → Prop} (hrefl : ∀ s, R s s) (htrans : ∀ {s t u : Store}, R s t → R t u → R s u)
  (hturn : ∀ turn : Turn, R turn.world.store turn.after.store)

include hrefl hturn in
theorem rel_move {r : Registry α} {m : Move α} {moves : List (Move α)}
    (hedits : ∀ s e, (s, e) ∈ r.edits (m :: moves) → R s (s.edit e)) :
    R r.world.store (r.move m).world.store := by
  cases m with
  | edit e => exact hedits _ _ List.mem_cons_self
  | submit work => exact hrefl _
  | turn k surroundings =>
      rcases turn?_cases r k surroundings with ⟨hstay, -⟩ | ⟨op, next, hk⟩
      · rw [hstay]
        exact hrefl _
      · rw [move_turn hk]
        exact hturn ⟨r.world, surroundings, op⟩

include hrefl htrans hturn

/-- What turns and the edits of a run respect holds from its first store to its last. -/
theorem rel_play {r : Registry α} {moves : List (Move α)}
    (hedits : ∀ s e, (s, e) ∈ r.edits moves → R s (s.edit e)) : R r.world.store (r.play moves).world.store := by
  induction moves generalizing r with
  | nil => exact hrefl _
  | cons m moves ih =>
      have hrest := ih (r := r.move m) fun s e h => hedits s e (mem_edits_cons h)
      exact htrans (rel_move hrefl hturn hedits) hrest

/-- What turns and the edits of a run respect holds from the store that a turn leaves to the last. -/
theorem rel_play_of_mem_turns {r : Registry α} {moves : List (Move α)}
    (hedits : ∀ s e, (s, e) ∈ r.edits moves → R s (s.edit e)) {number : Nat} {turn : Turn}
    (h : (number, turn) ∈ r.turns moves) : R turn.after.store (r.play moves).world.store := by
  induction moves generalizing r with
  | nil => cases h
  | cons m moves ih =>
      have hrest : ∀ s e, (s, e) ∈ (r.move m).edits moves → R s (s.edit e) :=
        fun s e h => hedits s e (mem_edits_cons h)
      rcases List.mem_append.1 h with hfirst | hlater
      · rw [(world_of_turn? (Option.mem_toList.1 hfirst)).2.2]
        exact rel_play hrefl htrans hturn hrest
      · exact ih hrest hlater

/-- What turns and the edits of a run respect holds from its first store to each of its stores. -/
theorem rel_of_mem_stores {r : Registry α} {moves : List (Move α)}
    (hedits : ∀ s e, (s, e) ∈ r.edits moves → R s (s.edit e)) {s : Store} (h : s ∈ r.stores moves) :
    R r.world.store s := by
  induction moves generalizing r with
  | nil =>
      obtain rfl := List.mem_singleton.1 h
      exact hrefl _
  | cons m moves ih =>
      rcases List.mem_cons.1 h with rfl | hlater
      · exact hrefl _
      · have hrest := ih (fun s e h => hedits s e (mem_edits_cons h)) hlater
        exact htrans (rel_move hrefl hturn hedits) hrest

/-- What turns and the edits of a run respect holds from each of its stores to every later one. -/
theorem pairwise_stores {r : Registry α} {moves : List (Move α)}
    (hedits : ∀ s e, (s, e) ∈ r.edits moves → R s (s.edit e)) : (r.stores moves).Pairwise R := by
  induction moves generalizing r with
  | nil => exact List.pairwise_singleton R _
  | cons m moves ih =>
      have hrest : ∀ s e, (s, e) ∈ (r.move m).edits moves → R s (s.edit e) :=
        fun s e h => hedits s e (mem_edits_cons h)
      refine List.pairwise_cons.2 ⟨fun s hs => ?_, ih hrest⟩
      exact htrans (rel_move hrefl hturn hedits) (rel_of_mem_stores hrefl htrans hturn hrest hs)

end Relation

/-- Of two stores of a run the second is later than the first. -/
theorem pairwise_later (r : Registry α) (moves : List (Move α)) : (r.stores moves).Pairwise Store.Later :=
  pairwise_stores .refl .trans (fun turn => turn.world.later_perform turn.surroundings turn.op)
    fun s e _ => s.later_edit e

/-- The end of a run is later than what each of its turns leaves. -/
theorem later_of_mem_turns {r : Registry α} {moves : List (Move α)} {number : Nat} {turn : Turn}
    (h : (number, turn) ∈ r.turns moves) : turn.after.store.Later (r.play moves).world.store :=
  rel_play_of_mem_turns .refl .trans (fun turn => turn.world.later_perform turn.surroundings turn.op)
    (fun s e _ => s.later_edit e) h

end Bailiwick.Registry
