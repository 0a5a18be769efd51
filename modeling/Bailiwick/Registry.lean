import Bailiwick.World

/-!
A registry with several requests at once. Requests take turns: a turn carries out one operation of one
request, and between turns others may edit the store. What a registry has gone through is a list of moves.
-/

namespace Bailiwick

/-- Carries out the next operation of some work. -/
def Work.advance (surroundings : Surroundings) (w : World) : Work α → World × Work α
  | .done value => (w, .done value)
  | .step op next =>
    let (w, answer) := w.perform surroundings op
    (w, next answer)

/-- What may happen next at a registry. -/
inductive Move (α : Type) where
  | edit (edit : Store.Edit)
  | submit (work : Work α)
  /-- The request with a number has its turn. -/
  | turn (number : Nat) (surroundings : Surroundings)

/-- The world of a registry, and its requests in the order of their submission. -/
structure Registry (α : Type) where
  world : World := {}
  requests : List (Work α) := []

namespace Registry

def move (r : Registry α) : Move α → Registry α
  | .edit edit => { r with world := r.world.edit edit }
  | .submit work => { r with requests := r.requests ++ [work] }
  | .turn number surroundings =>
    match r.requests[number]? with
    | none => r
    | some work =>
      let (world, rest) := work.advance surroundings r.world
      { world, requests := r.requests.set number rest }

def play (r : Registry α) (moves : List (Move α)) : Registry α := moves.foldl move r

end Registry

end Bailiwick
