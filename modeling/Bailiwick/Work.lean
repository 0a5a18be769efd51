import Bailiwick.Event
import Bailiwick.Store.Attempt

/-!
Work on a registry as a tree of operations. Each operation is carried out at one moment and its answer
decides what follows, so that several pieces of work can take turns between operations.
-/

namespace Bailiwick

/-- What became of a request to refresh the records of a host. -/
inductive Delivery where
  | accepted
  | rejected (cause : Fault)
  /-- No answer came before the deadline. -/
  | late

inductive Op where
  | isManaged (zone : String)
  | findDomain (name : String) (now : Instant)
  | findHost (name : HostName) (now : Instant)
  | openTransaction
  | loadHost (attempt : Attempt) (name : HostName) (now : Instant)
  | loadDomain (attempt : Attempt) (name : String) (now : Instant)
  | commit (attempt : Attempt)
  | discard (attempt : Attempt)
  | enqueueRefresh (name : HostName)
  | recordActivity (activity : String)
  | report (event : Event)

/-- What an operation answers. -/
@[reducible] def Op.Answer : Op → Type
  | .isManaged _ => Except Fault Bool
  | .findDomain _ _ => Except Fault (Option Domain)
  | .findHost _ _ => Except Fault (Option Host)
  | .openTransaction => Except Fault Unit
  | .loadHost _ _ _ => Option Host × Attempt
  | .loadDomain _ _ _ => Option Domain × Attempt
  | .commit _ => Bool
  | .discard _ => Unit
  | .enqueueRefresh _ => Delivery
  | .recordActivity _ => Unit
  | .report _ => Unit

inductive Work (α : Type) where
  | done (value : α)
  | step (op : Op) (next : op.Answer → Work α)

namespace Work

def bind : Work α → (α → Work β) → Work β
  | .done a, f => f a
  | .step op next, f => .step op fun answer => (next answer).bind f

instance : Monad Work where
  pure := .done
  bind := bind

/-- A single operation. -/
def perform (op : Op) : Work op.Answer := .step op .done

end Work

end Bailiwick
