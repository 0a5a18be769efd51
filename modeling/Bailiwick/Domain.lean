import Bailiwick.Client
import Bailiwick.Instant.Basic
import Bailiwick.Status
import Bailiwick.Uuid

/-!
Domains that the registry knows, with the names of the hosts under them. A domain is active until its
deletion time; one in pending delete stays active until it is purged.
-/

namespace Bailiwick

structure DomainKey where
  id : Uuid
  deriving DecidableEq, Repr

def DomainKey.text (key : DomainKey) : String := "domain-" ++ key.id.text

structure Domain where
  key : DomainKey
  name : String
  sponsor : ClientId
  statuses : StatusSet
  /-- Full names of the hosts under the domain. -/
  subordinateHosts : SortedSet String
  creationTime : Instant
  deletionTime : Option Instant
  deriving DecidableEq

namespace Domain

/-- An active domain without hosts. -/
def new (key : DomainKey) (name : String) (sponsor : ClientId) (creationTime : Instant) : Domain where
  key
  name
  sponsor
  statuses := .default
  subordinateHosts := .empty
  creationTime
  deletionTime := none

/-- Puts a domain into pending delete, to be purged at the given time. -/
def withPendingDelete (d : Domain) (deletionTime : Instant) : Domain :=
  { d with statuses := (d.statuses.erase .ok).insert .pendingDelete, deletionTime := some deletionTime }

def isActiveAt (d : Domain) (now : Instant) : Bool := d.deletionTime.all (now < ·)

def isPendingDelete (d : Domain) : Bool := .pendingDelete ∈ d.statuses

/-- Adds a name to the hosts under a domain. -/
def addSubordinate (d : Domain) (hostName : String) : Domain :=
  { d with subordinateHosts := d.subordinateHosts.insert hostName }

end Domain

end Bailiwick
