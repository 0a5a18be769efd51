import Bailiwick.Work

/-!
Transactions. A body reads and writes through an attempt and ends in a value or a refusal. The body of a
transaction that commits is run again on fresh state as long as what it read has changed by the time of
the commit and the budget of attempts lasts.
-/

namespace Bailiwick

inductive Body (α : Type) where
  | done (result : Except Refusal α)
  | loadHost (name : HostName) (now : Instant) (next : Option Host → Body α)
  | loadDomain (name : String) (now : Instant) (next : Option Domain → Body α)
  | write (w : Store.Write) (rest : Body α)

namespace Body

def bind : Body α → (α → Body β) → Body β
  | .done (.ok a), f => f a
  | .done (.error refusal), _ => .done (.error refusal)
  | .loadHost name now next, f => .loadHost name now fun found => (next found).bind f
  | .loadDomain name now next, f => .loadDomain name now fun found => (next found).bind f
  | .write w rest, f => .write w (rest.bind f)

instance : Monad Body where
  pure a := .done (.ok a)
  bind := bind

def check (result : Except Refusal α) : Body α := .done result

def host (name : HostName) (now : Instant) : Body (Option Host) := .loadHost name now fun found => pure found

def domain (name : String) (now : Instant) : Body (Option Domain) := .loadDomain name now fun found => pure found

def put (w : Store.Write) : Body Unit := .write w (pure ())

/-- The operations of a body on an attempt, with the attempt that they lead to. -/
def run (a : Attempt) : Body α → Work (Except Refusal α × Attempt)
  | .done result => .done (result, a)
  | .loadHost name now next => .step (.loadHost a name now) fun (found, a) => (next found).run a
  | .loadDomain name now next => .step (.loadDomain a name now) fun (found, a) => (next found).run a
  | .write w rest => rest.run (a.write w)

end Body

/-- Whether the writes of a transaction are to last. -/
inductive CommitMode where
  | commit | rollBack
  deriving DecidableEq, Repr

namespace Transaction

/-- Attempts from a number on, as many as remain of the budget. -/
def attempts (mode : CommitMode) (budget : Nat) (body : Nat → Body α) :
    (remaining number : Nat) → Work (Except Refusal α)
  | 0, _ => return .error (.fault (.retriesExhausted budget))
  | remaining + 1, number => do
    let (result, a) ← (body number).run .empty
    match result, mode with
    | .error refusal, _ => return .error refusal
    | .ok value, .rollBack =>
      Work.perform (.discard a)
      Work.perform (.report (.rolledBack number))
      return .ok value
    | .ok value, .commit =>
      if ← Work.perform (.commit a) then
        Work.perform (.report (.committed number))
        return .ok value
      else
        Work.perform (.report (.conflicted number))
        attempts mode budget body remaining (number + 1)

/-- A transaction with a budget of attempts, of which at least one is made. The body may depend on the
number of the attempt. -/
def transact (mode : CommitMode) (maxAttempts : Nat) (body : Nat → Body α) : Work (Except Refusal α) := do
  match ← Work.perform .openTransaction with
  | .error fault => return .error (.fault fault)
  | .ok () =>
    let budget := max 1 maxAttempts
    attempts mode budget body budget 1

end Transaction

end Bailiwick
