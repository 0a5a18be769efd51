import Bailiwick.Proofs.Create.Reads
import Bailiwick.Proofs.RunStores

/-!
The span of a request: the part of a run from its submission to the moment at which it comes to its result. Whatever
a request has met in a store it has met in one of the stores that the run passes through in its span.
-/

namespace Bailiwick

open Deed

/-- Others who use the operations of a store, and leave it as it was or with a property. -/
def Company.within (S : Store → Prop) (T : Surroundings → Prop) : Company where
  changes v w := v.store.Later w.store ∧ (w.store = v.store ∨ S w.store)
  meets := T
  alike h := by
    rw [h.store]
    exact ⟨.refl _, .inl rfl⟩
  trans := by
    rintro u v w ⟨huv, hu⟩ ⟨hvw, hv⟩
    refine ⟨huv.trans hvw, ?_⟩
    rcases hv with hsame | hw
    · rw [hsame]
      exact hu
    · exact .inr hw

namespace Company

variable {S : Store → Prop} {T : Surroundings → Prop} {u v : World}

theorem within_grows : (within S T).Grows := fun h => h.1

theorem within_holds (h : (within S T).changes u v) (hu : S u.store) : S v.store := by
  rcases h.2 with hsame | hv
  · rw [hsame]
    exact hu
  · exact hv

/-- What held meanwhile held of a store with the property. -/
theorem exists_of_meanwhile {P : Store → Prop} (h : (within S T).Meanwhile u v P) (hu : S u.store) :
    ∃ s, S s ∧ P s := by
  obtain ⟨moment, hmoment, -, hP⟩ := h
  exact ⟨moment.store, within_holds hmoment hu, hP⟩

end Company

namespace Registry

variable {α : Type}

theorem world_mem_stores (r : Registry α) (moves : List (Move α)) : r.world.store ∈ r.stores moves := by
  cases moves with
  | nil => exact List.mem_cons_self
  | cons m moves => exact List.mem_cons_self

/-- What is done in a run leaves stores of that run. -/
theorem bears_within {S : Store → Prop} {T : Surroundings → Prop} {number : Nat} {r : Registry α}
    {moves : List (Move α)} (hS : ∀ s ∈ r.stores moves, S s)
    (hT : ∀ turn, Deed.turn number turn ∈ r.deeds moves → T turn.surroundings) :
    (Company.within S T).Bears number r.world (r.deeds moves) := by
  induction moves generalizing r with
  | nil => trivial
  | cons m moves ih =>
      obtain ⟨hmeets, hworld⟩ := r.unbroken_move m
      have hnext : S (r.move m).world.store := hS _ (List.mem_cons_of_mem _ (world_mem_stores (r.move m) moves))
      rw [deeds, Company.bears_append, hworld]
      refine ⟨?_, ih (fun s hs => hS s (List.mem_cons_of_mem _ hs)) fun turn hturn => hT turn ?_⟩
      · cases hdeed : r.deed? m with
        | none => trivial
        | some deed =>
            rw [hdeed] at hmeets hworld
            refine ⟨?_, ⟨(Company.anyone_allows deed).changes hmeets.1, .inr ?_⟩, trivial⟩
            · rintro turn rfl
              apply hT
              rw [deeds, hdeed]
              exact List.mem_cons_self
            · rw [← hworld] at hnext
              exact hnext
      · exact List.mem_append_right _ hturn

/-- A request that has come to its result stays so. -/
theorem done_play {r : Registry α} {number : Nat} {value : α} (h : r.requests[number]? = some (.done value))
    (moves : List (Move α)) : (r.play moves).requests[number]? = some (.done value) := by
  obtain ⟨q, hq, htakes⟩ := takes_play moves h
  rw [htakes.of_done.1] at hq
  exact hq

end Registry

namespace Create

variable {w : World} {acts : List Act} {number : Nat} {q : Request} {result : Except Refusal Response}

/-- A request has come to its result at the end of some acts, and at no sooner moment. -/
structure EndsWith (r : Registry (Except Refusal Response)) (during : List Act) (number : Nat)
    (result : Except Refusal Response) : Prop where
  done : (r.play (moves during)).requests[number]? = some (.done result)
  first : ∀ front back earlier, during = front ++ back →
    (r.play (moves front)).requests[number]? = some (.done earlier) → back = []

/-- A request that has come to its result came to it at one moment. -/
theorem exists_endsWith {r : Registry (Except Refusal Response)}
    (h : (r.play (moves acts)).requests[number]? = some (.done result)) :
    ∃ during after, acts = during ++ after ∧ EndsWith r during number result := by
  induction acts generalizing r with
  | nil =>
      refine ⟨[], [], rfl, h, fun front back earlier hsplit _ => ?_⟩
      exact (List.append_eq_nil_iff.1 hsplit.symm).2
  | cons act acts ih =>
      by_cases hnow : ∃ value, r.requests[number]? = some (.done value)
      · obtain ⟨value, hvalue⟩ := hnow
        refine ⟨[], act :: acts, rfl, ?_, fun front back earlier hsplit _ => ?_⟩
        · have hlast := Registry.done_play hvalue (moves (act :: acts))
          rw [h] at hlast
          rw [Work.done.inj (Option.some.inj hlast)]
          exact hvalue
        · exact (List.append_eq_nil_iff.1 hsplit.symm).2
      · obtain ⟨during, after, rfl, hdone, hfirst⟩ := ih h
        refine ⟨act :: during, after, rfl, hdone, fun front back earlier hsplit hearlier => ?_⟩
        cases front with
        | nil => exact absurd ⟨earlier, hearlier⟩ hnow
        | cons act' front =>
            obtain ⟨rfl, hrest⟩ := List.cons.inj hsplit
            exact hfirst front back earlier hrest hearlier

/-- The part of a run in which a request is under way. -/
structure Span (w : World) (acts : List Act) (number : Nat) (q : Request) (result : Except Refusal Response) where
  before : List Act
  during : List Act
  after : List Act
  acts_eq : acts = before ++ .submit q :: during ++ after
  number_eq : (requested before).length = number
  ends : EndsWith ((opened w).play (moves (before ++ [.submit q]))) during number result

namespace Span

variable (span : Span w acts number q result)

/-- The registry when the request was submitted. -/
def start : Registry (Except Refusal Response) := (opened w).play (moves (span.before ++ [.submit q]))

/-- The stores from the start of the request to its end. -/
def stores : List Store := span.start.stores (moves span.during)

/-- What was done from the start of the request to its end. -/
def deeds : List Deed := span.start.deeds (moves span.during)

/-- Some turn of the request in its span met some surroundings. -/
def Meets (surroundings : Surroundings) : Prop :=
  ∃ turn, Deed.turn number turn ∈ span.deeds ∧ turn.surroundings = surroundings

theorem start_mem_stores : span.start.world.store ∈ span.stores := Registry.world_mem_stores ..

/-- At its start all the work of a request is to be done. -/
theorem requests_start : span.start.requests[number]? = some q.work := by
  have hsubmit := (requests_submit_opened w span.before q).1
  rw [span.number_eq] at hsubmit
  exact hsubmit

/-- What is done in the span of a request leaves stores of the span. -/
theorem bears (S : Store → Prop) (hS : ∀ s ∈ span.stores, S s) :
    (Company.within S span.Meets).Bears number span.start.world span.deeds :=
  Registry.bears_within hS fun turn hturn => ⟨turn, hturn, rfl⟩

/-- A request has its chronicle in its span. -/
theorem chronicle (S : Store → Prop) (hS : ∀ s ∈ span.stores, S s) :
    Chronicle (.within S span.Meets) number q span.start.world (span.start.play (moves span.during)).world span.deeds
      result :=
  chronicle_since span.requests_start span.ends.done (span.bears S hS) (asides_nil number)

end Span

/-- In a run every request that has come to its result has its span. -/
theorem exists_span (hq : (requested acts)[number]? = some q)
    (hdone : ((opened w).play (moves acts)).requests[number]? = some (.done result)) :
    Nonempty (Span w acts number q result) := by
  obtain ⟨before, rest, rfl, hnumber⟩ := exists_submit hq
  rw [List.append_cons, moves_append, Registry.play_append] at hdone
  obtain ⟨during, after, rfl, hends⟩ := exists_endsWith hdone
  refine ⟨⟨before, during, after, ?_, hnumber, hends⟩⟩
  simp only [List.append_assoc, List.cons_append]

end Create

end Bailiwick
