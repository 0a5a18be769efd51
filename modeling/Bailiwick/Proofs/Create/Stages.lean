import Bailiwick.Proofs.Create.Body
import Bailiwick.Proofs.Create.Flow

/-!
The stages of a create, each with what comes after it: from the receipt of a request to the placement of its
name, from there to the transaction, and from the transaction to the answer and its report.
-/

namespace Bailiwick.Create

/-- A create as it is put to a registry. -/
structure Request where
  service : Service
  context : Context
  /-- Identifiers for the rows of each attempt. -/
  ids : Nat → FreshIds
  command : Command

namespace Request

variable (q : Request) (client : ClientId) (name : HostName)

def work : Work (Except Refusal Response) := createHost q.service q.context q.ids q.command

def mode : CommitMode := if q.context.dryRun then .rollBack else .commit

/-- What the attempt with a number does, once the host is placed and its addresses are known. -/
def attempt (placement : Placement) (addresses : List IpAddress) (number : Nat) : Body Created :=
  body name addresses (placement.superordinate?.map Domain.name) client q.context.now q.context.correlation
    (q.ids number)

/-- What follows a transaction that came to the rows of a host. -/
def conclude (placement : Placement) (created : Created) : Flow Response := do
  if q.context.dryRun then
    Flow.advance .transactionRolledBack
    Flow.perform (.report (.dryRunPassed name q.context.correlation))
    return .ofCreated created true
  else
    Flow.advance .transactionCommitted
    Flow.perform (.report (.created name created.host.key client q.context.correlation))
    if placement.isSubordinate then requestRefresh q.service name
    Flow.perform (.recordActivity activityName)
    return .ofCreated created false

/-- The transaction and what follows it. -/
def carryOut (placement : Placement) (addresses : List IpAddress) : Flow Response := do
  let created ← ExceptT.mk
    (liftM (Transaction.transact q.mode q.service.maxAttempts (q.attempt client name placement addresses)))
  q.conclude client name placement created

/-- What follows the placement of a host. -/
def settle (placement : Placement) : Flow Response := do
  Flow.advance (.classified placement.isSubordinate)
  let addresses ← Flow.check (placement.resolveAddresses q.command.addresses)
  let holder ← Flow.ask (Work.perform (.findHost name q.context.now))
  Flow.check (checkUnique holder name client .advisory)
  Flow.advance .constraintsPassed
  Flow.advance .transactionStarted
  q.carryOut client name placement addresses

/-- What follows the search for the managed zone of a name. -/
def place (zone : Option String) : Flow Response := do
  Flow.check (name.checkDepth (q.service.rules.longest name) zone)
  Flow.advance .nameValidated
  let placement ← classify name zone q.context.now
  q.settle client name placement

/-- All stages of a request. -/
def stages : Flow Response := do
  let some client := q.context.client | throw .notLoggedIn
  let name ← Flow.check (HostName.parse q.command.hostName)
  let zone ← longestManagedZone name
  q.place client name zone

/-- The report on how a request has ended. -/
def report (result : Except Refusal Response) (trail : Trail) : Work (Except Refusal Response) := do
  match result with
  | .ok response =>
    Work.perform (.report (.finished q.command.hostName trail))
    return .ok response
  | .error refusal =>
    let (_, trail) ← (Flow.advance (.failed refusal)).run.run trail
    Work.perform (.report (if refusal.isTransient then .failed q.command.hostName refusal trail
      else .refused q.command.hostName refusal trail))
    return .error refusal

/-- The rest of a request that has only reads and reports behind it: its last stages and the report. -/
def finish (f : Flow Response) : Work (Except Refusal Response) :=
  f.run.run (.start .received) >>= fun (result, trail) => q.report result trail

theorem execute_eq : execute q.service q.context q.ids q.command = q.stages := by
  rw [execute, stages]
  cases q.context.client with
  | none => rfl
  | some client => rfl

theorem work_eq :
    q.work = .step (.report (.received q.command.hostName q.context.correlation)) fun _ => q.finish q.stages := by
  rw [work, createHost, execute_eq]
  rfl

end Request

end Bailiwick.Create
