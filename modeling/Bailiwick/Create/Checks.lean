import Bailiwick.Ledger

/-!
Decisions of a host create on rows that are already loaded, and the rows that it writes. The advisory and
the authoritative pass take the same decisions.
-/

namespace Bailiwick.Create

/-- When an active host of the same name is met. -/
inductive Pass where
  /-- Before the transaction. -/
  | advisory
  /-- Inside the transaction, where any active host is a rival. -/
  | authoritative
  deriving DecidableEq, Repr

/-- Whether a name is free, given the active host that holds it if any. -/
def checkUnique (holder : Option Host) (name : HostName) (client : ClientId) (pass : Pass) :
    Except Refusal Unit :=
  match holder with
  | none => pure ()
  | some host =>
    if pass = .advisory ∧ host.sponsor = client then throw (.alreadyExistsForThisClient name.text)
    else throw (.createContention name.text)

/-- The domain loaded under a name, if it may gain a subordinate host. -/
def checkSuperordinate (domainName : String) (loaded : Option Domain) : Except Refusal Domain :=
  match loaded with
  | none => throw (.superordinateDomainDoesNotExist domainName)
  | some domain =>
    if domain.isPendingDelete then throw (.superordinateDomainInPendingDelete domainName)
    else pure domain

/-- Who asks, when, and how the request is to be carried out. -/
structure Context where
  /-- The client that is logged in, if any. -/
  client : Option ClientId
  now : Instant
  correlation : Uuid
  /-- Run every check and write nothing. -/
  dryRun : Bool

/-- What is asked for, as it was submitted. -/
structure Command where
  hostName : String
  addresses : List DeclaredAddress
  deriving DecidableEq

/-- Identifiers for the rows that one attempt would write. -/
structure FreshIds where
  host : HostKey
  entry : Uuid

/-- The rows of a new host. -/
structure Created where
  host : Host
  history : HistoryEntry
  deriving DecidableEq

def Created.new (ids : FreshIds) (name : HostName) (addresses : List IpAddress)
    (superordinate : Option DomainKey) (client : ClientId) (now : Instant) (correlation : Uuid) : Created where
  host := {
    key := ids.host
    name
    addresses
    superordinate
    sponsor := client
    creator := client
    statuses := .default
    creationTime := now
    deletionTime := none
    lastSuperordinateChange := none }
  history := {
    entryVersion := HistoryEntry.currentVersion
    entryId := ids.entry
    type := .hostCreate
    hostKey := ids.host
    hostName := name
    client
    modificationTime := now
    correlation }

/-- What a successful create answers. -/
structure Response where
  hostKey : HostKey
  hostName : HostName
  addresses : List IpAddress
  superordinate : Option DomainKey
  historyEntry : Uuid
  creationTime : Instant
  /-- Whether nothing was written. -/
  dryRun : Bool
  deriving DecidableEq

def Response.ofCreated (created : Created) (dryRun : Bool) : Response where
  hostKey := created.host.key
  hostName := created.host.name
  addresses := created.host.addresses
  superordinate := created.host.superordinate
  historyEntry := created.history.entryId
  creationTime := created.host.creationTime
  dryRun

end Bailiwick.Create
