import Bailiwick.Host

/-!
What the registry writes down for good: one history entry for each change of a resource, and billing
events.
-/

namespace Bailiwick

inductive HistoryType where
  | hostCreate
  deriving DecidableEq, Repr

def HistoryType.text : HistoryType → String
  | .hostCreate => "HOST_CREATE"

structure HistoryEntry where
  /-- The version of the form of the entry, within 32 bits. -/
  entryVersion : UInt32
  entryId : Uuid
  type : HistoryType
  hostKey : HostKey
  hostName : HostName
  client : ClientId
  modificationTime : Instant
  correlation : Uuid
  deriving DecidableEq

/-- The version of the entries written now. -/
def HistoryEntry.currentVersion : UInt32 := 1

structure BillingEvent where
  eventId : Uuid
  client : ClientId
  reason : String
  eventTime : Instant
  deriving DecidableEq

end Bailiwick
