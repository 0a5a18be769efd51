import Bailiwick.HostName.Basic
import Bailiwick.Instant.Basic

/-!
Requests to refresh the records of a host, and the subject they are published under.
-/

namespace Bailiwick

structure RefreshRequest where
  hostName : HostName
  requestedAt : Instant
  deriving DecidableEq

namespace Refresh

/-- The prefix of subjects where none is configured. -/
def defaultSubjectPrefix : String := "registry.dns"

/-- The subject of refresh requests under a prefix, whose trailing dots do not count. -/
def subject (start : String) : String :=
  String.ofList (start.toList.reverse.dropWhile (· = '.')).reverse ++ ".refresh.host"

end Refresh

end Bailiwick
