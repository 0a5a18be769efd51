import Bailiwick.Ledger
import Bailiwick.Table

/-!
The persistent state of a registry: managed zones, every host row ever stored under each name with the
oldest first, the domain row under each name, the history and the billing events. Host names and domain
names carry versions. The version of a domain counts replacements of its row; a name added to the hosts
under a domain leaves it alone, so that creates under one domain do not get into each other's way.
-/

namespace Bailiwick

structure Store where
  zones : SortedSet String := .empty
  hosts : Table (List Host) := .empty
  hostVersions : Table Nat := .empty
  domains : Table Domain := .empty
  domainVersions : Table Nat := .empty
  history : List HistoryEntry := []
  billing : List BillingEvent := []

namespace Store

def empty : Store := {}

def isManaged (s : Store) (zone : String) : Bool := zone ∈ s.zones

/-- Every host row stored under a name, the oldest first. -/
def hostsNamed (s : Store) (name : String) : List Host := (s.hosts.get? name).getD []

def hostVersion (s : Store) (name : String) : Nat := (s.hostVersions.get? name).getD 0

def domainVersion (s : Store) (name : String) : Nat := (s.domainVersions.get? name).getD 0

/-- The newest row under a name that is active. -/
def activeHost (s : Store) (name : String) (now : Instant) : Option Host :=
  (s.hostsNamed name).reverse.find? fun host => host.isActiveAt now

/-- The domain with a name, if it is active. -/
def activeDomain (s : Store) (name : String) (now : Instant) : Option Domain :=
  (s.domains.get? name).filter fun domain => domain.isActiveAt now

/-- The history of one host. -/
def historyFor (s : Store) (key : HostKey) : List HistoryEntry := s.history.filter fun e => e.hostKey = key

def addZone (s : Store) (zone : String) : Store := { s with zones := s.zones.insert zone }

/-- The next version of a key. -/
def bump (versions : Table Nat) (key : String) : Table Nat := versions.alter key fun v => v.getD 0 + 1

/-- Stores a domain row in place of the one with the same name. -/
def putDomain (s : Store) (domain : Domain) : Store :=
  { s with
    domains := s.domains.put domain.name domain
    domainVersions := bump s.domainVersions domain.name }

/-- Stores a host row behind those with the same name. -/
def putHost (s : Store) (host : Host) : Store :=
  { s with
    hosts := s.hosts.alter host.name.text fun rows => rows.getD [] ++ [host]
    hostVersions := bump s.hostVersions host.name.text }

/-- A change that is made outside of transactions. -/
inductive Edit where
  | addZone (zone : String)
  | putDomain (domain : Domain)
  | putHost (host : Host)

def edit (s : Store) : Edit → Store
  | .addZone zone => s.addZone zone
  | .putDomain domain => s.putDomain domain
  | .putHost host => s.putHost host

/-- A change that a transaction makes when it commits. -/
inductive Write where
  | insertHost (host : Host)
  | appendHistory (entry : HistoryEntry)
  /-- Adds a host name to those under the domain with a key. -/
  | linkHost (domain : DomainKey) (hostName : String)
  | insertBilling (event : BillingEvent)

def apply (s : Store) : Write → Store
  | .insertHost host => s.putHost host
  | .appendHistory entry => { s with history := s.history ++ [entry] }
  | .linkHost key hostName =>
    { s with domains := s.domains.updateFirst (fun d => d.key = key) fun d => d.addSubordinate hostName }
  | .insertBilling event => { s with billing := s.billing ++ [event] }

def applyAll (s : Store) (writes : List Write) : Store := writes.foldl apply s

/-- The links that writes ask for to domains that are not there. No write adds or removes a domain. -/
def missingLinks (s : Store) (writes : List Write) : List (DomainKey × String) :=
  writes.filterMap fun write =>
    match write with
    | .linkHost key hostName => if s.domains.any fun d => d.key = key then none else some (key, hostName)
    | _ => none

end Store

end Bailiwick
