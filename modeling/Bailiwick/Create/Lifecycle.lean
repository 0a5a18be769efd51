import Bailiwick.Refusal

/-!
The lifecycle of a create request. A request passes its stages in one order and is aborted where one
fails; a committed create of a subordinate host may still be followed by its refresh. The trail of a
request holds every state it went through.
-/

namespace Bailiwick.Create

inductive State where
  | received
  /-- The name is accepted and deep enough. -/
  | validated
  /-- It is known whether the host is subordinate to a domain. -/
  | classified (subordinate : Bool)
  /-- Addresses and the advisory check of the name passed. -/
  | constraintsChecked (subordinate : Bool)
  | transacting (subordinate : Bool)
  | committed (subordinate : Bool)
  | rolledBack
  | dnsTriggered
  | aborted (refusal : Refusal)
  deriving DecidableEq, Repr

/-- What happens to a request. -/
inductive Input where
  | nameValidated
  | classified (subordinate : Bool)
  | constraintsPassed
  | transactionStarted
  | transactionCommitted
  | transactionRolledBack
  | dnsRefreshEnqueued
  | failed (refusal : Refusal)
  deriving DecidableEq, Repr

def State.text : State → String
  | .received => "received"
  | .validated => "validated"
  | .classified _ => "classified"
  | .constraintsChecked _ => "constraints_checked"
  | .transacting _ => "transacting"
  | .committed _ => "committed"
  | .rolledBack => "rolled_back"
  | .dnsTriggered => "dns_triggered"
  | .aborted refusal => s!"aborted({refusal.code.number})"

def Input.text : Input → String
  | .nameValidated => "name_validated"
  | .classified true => "classified_subordinate"
  | .classified false => "classified_external"
  | .constraintsPassed => "constraints_passed"
  | .transactionStarted => "transaction_started"
  | .transactionCommitted => "transaction_committed"
  | .transactionRolledBack => "transaction_rolled_back"
  | .dnsRefreshEnqueued => "dns_refresh_enqueued"
  | .failed _ => "failed"

/-- Whether a state ends the request. -/
def State.isTerminal : State → Bool
  | .committed _ | .rolledBack | .dnsTriggered | .aborted _ => true
  | _ => false

/-- The state after an input, where the input is allowed. -/
def State.next? : State → Input → Option State
  | .received, .nameValidated => some .validated
  | .validated, .classified subordinate => some (.classified subordinate)
  | .classified subordinate, .constraintsPassed => some (.constraintsChecked subordinate)
  | .constraintsChecked subordinate, .transactionStarted => some (.transacting subordinate)
  | .transacting subordinate, .transactionCommitted => some (.committed subordinate)
  | .transacting _, .transactionRolledBack => some .rolledBack
  | .committed true, .dnsRefreshEnqueued => some .dnsTriggered
  | state, .failed refusal => if state.isTerminal then none else some (.aborted refusal)
  | _, _ => none

/-- An input that the state does not allow. -/
structure Misstep where
  state : State
  input : Input
  deriving DecidableEq, Repr

def Misstep.message (m : Misstep) : String :=
  s!"Invalid transition from {m.state.text} on {m.input.text}"

def State.step (state : State) (input : Input) : Except Misstep State :=
  match state.next? input with
  | some next => .ok next
  | none => .error ⟨state, input⟩

/-- The present state and, in order, all states up to it. -/
structure Trail where
  current : State
  visited : List State
  deriving DecidableEq, Repr

namespace Trail

def start (state : State) : Trail := ⟨state, [state]⟩

/-- Takes an input; one that is not allowed changes nothing. -/
def advance (t : Trail) (input : Input) : Except Misstep Trail :=
  match t.current.step input with
  | .ok next => .ok ⟨next, t.visited ++ [next]⟩
  | .error misstep => .error misstep

def names (t : Trail) : List String := t.visited.map State.text

def text (t : Trail) : String := " → ".intercalate t.names

end Trail

end Bailiwick.Create
