import Bailiwick.Create.Checks
import Bailiwick.PublicSuffix
import Bailiwick.Placement
import Bailiwick.Transaction

/-!
The creation of a host, from what was submitted to the rows that are committed. Name, depth, placement,
addresses and uniqueness are checked on what the store says at the time; the transaction then takes the
decisions on uniqueness and on the superordinate domain again, and only they count. What follows a commit
never turns it into a failure.
-/

namespace Bailiwick.Create

/-- What the creation of hosts is configured with. -/
structure Service where
  rules : PublicSuffix.Rules
  maxAttempts : Nat
  /-- How long a refresh request may take, in milliseconds. -/
  refreshDeadline : Nat

/-- The name under which creates are counted. -/
def activityName : String := "srs-host-create"

/-- Steps of a request, which carry its trail and may refuse it. -/
abbrev Flow := ExceptT Refusal (StateT Trail Work)

namespace Flow

def perform (op : Op) : Flow op.Answer := liftM (Work.perform op)

/-- The answer of a call of the store; its fault refuses the request. -/
def ask (call : Work (Except Fault α)) : Flow α :=
  ExceptT.mk do return (← liftM call).mapError .fault

def check (result : Except Refusal α) : Flow α := ExceptT.mk (pure result)

/-- Moves the trail and reports the move. -/
def advance (input : Input) : Flow Unit := do
  match (← get).advance input with
  | .ok trail =>
    set trail
    perform (.report (.advanced input trail.current))
  | .error misstep => perform (.report (.misstepped misstep))

end Flow

/-- The first of the suffixes, from the longest on, that is a managed zone. -/
def firstManagedZone : List String → Flow (Option String)
  | [] => return none
  | zone :: shorter => do
    if ← Flow.ask (Work.perform (.isManaged zone)) then return some zone else firstManagedZone shorter

def longestManagedZone (name : HostName) : Flow (Option String) := firstManagedZone name.properSuffixes

/-- The name of the domain that a host under a managed zone belongs to. -/
def superordinateName (name : HostName) (zone : String) : String := name.suffix (HostName.countLabels zone + 1)

/-- Places a host, given the managed zone it is under. -/
def classify (name : HostName) (zone : Option String) (now : Instant) : Flow Placement := do
  match zone with
  | none => return .external
  | some zone =>
    let domainName := superordinateName name zone
    match ← Flow.ask (Work.perform (.findDomain domainName now)) with
    | some domain => return .subordinate domain
    | none => throw (.superordinateDomainDoesNotExist domainName)

/-- What the transaction does: both authoritative checks, then the rows. -/
def body (name : HostName) (addresses : List IpAddress) (domainName : Option String) (client : ClientId)
    (now : Instant) (correlation : Uuid) (ids : FreshIds) : Body Created := do
  let holder ← Body.host name now
  Body.check (checkUnique holder name client .authoritative)
  let superordinate : Option Domain ← match domainName with
    | none => pure none
    | some domainName => do
      let loaded ← Body.domain domainName now
      some <$> Body.check (checkSuperordinate domainName loaded)
  let created := Created.new ids name addresses (superordinate.map Domain.key) client now correlation
  Body.put (.insertHost created.host)
  Body.put (.appendHistory created.history)
  match superordinate with
  | none => pure ()
  | some domain => Body.put (.linkHost domain.key name.text)
  return created

/-- Hands a committed host to the refresh queue. -/
def requestRefresh (service : Service) (name : HostName) : Flow Unit := do
  match ← Flow.perform (.enqueueRefresh name) with
  | .accepted => Flow.advance .dnsRefreshEnqueued
  | .rejected cause => Flow.perform (.report (.refreshRejected name cause))
  | .late => Flow.perform (.report (.refreshLate name service.refreshDeadline))

/-- All stages of a request. -/
def execute (service : Service) (context : Context) (ids : Nat → FreshIds) (command : Command) :
    Flow Response := do
  let some client := context.client | throw .notLoggedIn
  let now := context.now
  let name ← Flow.check (HostName.parse command.hostName)
  let zone ← longestManagedZone name
  Flow.check (name.checkDepth (service.rules.longest name) zone)
  Flow.advance .nameValidated
  let placement ← classify name zone now
  Flow.advance (.classified placement.isSubordinate)
  let addresses ← Flow.check (placement.resolveAddresses command.addresses)
  let holder ← Flow.ask (Work.perform (.findHost name now))
  Flow.check (checkUnique holder name client .advisory)
  Flow.advance .constraintsPassed
  Flow.advance .transactionStarted
  let mode := if context.dryRun then CommitMode.rollBack else .commit
  let domainName := placement.superordinate?.map Domain.name
  let attempt := fun number => body name addresses domainName client now context.correlation (ids number)
  let created ← ExceptT.mk (liftM (Transaction.transact mode service.maxAttempts attempt))
  if context.dryRun then
    Flow.advance .transactionRolledBack
    Flow.perform (.report (.dryRunPassed name context.correlation))
    return .ofCreated created true
  else
    Flow.advance .transactionCommitted
    Flow.perform (.report (.created name created.host.key client context.correlation))
    if placement.isSubordinate then requestRefresh service name
    Flow.perform (.recordActivity activityName)
    return .ofCreated created false

/-- A request from its receipt to its answer. The identifiers are those for the rows of each attempt. -/
def createHost (service : Service) (context : Context) (ids : Nat → FreshIds) (command : Command) :
    Work (Except Refusal Response) := do
  Work.perform (.report (.received command.hostName context.correlation))
  let (result, trail) ← ((execute service context ids command).run).run (.start .received)
  match result with
  | .ok response =>
    Work.perform (.report (.finished command.hostName trail))
    return .ok response
  | .error refusal =>
    let (_, trail) ← ((Flow.advance (.failed refusal)).run).run trail
    Work.perform (.report (if refusal.isTransient then .failed command.hostName refusal trail
      else .refused command.hostName refusal trail))
    return .error refusal

end Bailiwick.Create
