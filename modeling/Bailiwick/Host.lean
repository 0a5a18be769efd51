import Bailiwick.Address.Declared
import Bailiwick.Domain
import Bailiwick.HostName.Basic

/-!
Host rows. A host is active until its deletion time; a row past that time is a tombstone and leaves its
name free.
-/

namespace Bailiwick

structure HostKey where
  id : Uuid
  deriving DecidableEq, Repr

def HostKey.text (key : HostKey) : String := "host-" ++ key.id.text

structure Host where
  key : HostKey
  name : HostName
  /-- Distinct addresses in the order of their declaration. -/
  addresses : List IpAddress
  superordinate : Option DomainKey
  sponsor : ClientId
  creator : ClientId
  statuses : StatusSet
  creationTime : Instant
  deletionTime : Option Instant
  /-- When the superordinate domain last changed; unset on create. -/
  lastSuperordinateChange : Option Instant
  deriving DecidableEq

namespace Host

def isActiveAt (h : Host) (now : Instant) : Bool := h.deletionTime.all (now < ·)

def isSubordinate (h : Host) : Bool := h.superordinate.isSome

end Host

end Bailiwick
