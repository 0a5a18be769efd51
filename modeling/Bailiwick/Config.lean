import Bailiwick.Files
import Bailiwick.PublicSuffix
import Bailiwick.Refresh
import Bailiwick.Text.Quoted

/-!
The configuration of a registry, read from named variables. A variable with nothing but blanks counts as
unset, and what is unset has a default; a number that is not positive or does not fit is refused.
-/

namespace Bailiwick

/-- How to reach the broker that refresh requests are published to. -/
structure Messaging where
  servers : List String
  clientName : String
  /-- In milliseconds. -/
  connectTimeout : Nat
  deriving DecidableEq, Repr

/-- The broker behind a list of servers between commas. -/
def Messaging.ofServers (servers : String) : Messaging where
  servers := ((((Text.splitAt ',' servers.toList).map Text.trim).filter fun s => !s.isEmpty).map String.ofList)
  clientName := "host-registry"
  connectTimeout := 10000

structure Config where
  messaging : Option Messaging
  subjectPrefix : String
  /-- How long a refresh request may take, in milliseconds. -/
  refreshTimeout : Nat
  maxAttempts : Nat
  /-- The file that replaces the bundled suffix rules. -/
  suffixList : Option String
  deriving DecidableEq, Repr

namespace Config

def messagingVariable : String := "REGISTRY_NATS_URL"

def subjectPrefixVariable : String := "REGISTRY_DNS_SUBJECT_PREFIX"

def refreshTimeoutVariable : String := "REGISTRY_DNS_REFRESH_TIMEOUT_MS"

def maxAttemptsVariable : String := "REGISTRY_TX_MAX_ATTEMPTS"

def suffixListVariable : String := "REGISTRY_PUBLIC_SUFFIX_LIST"

def defaultRefreshTimeout : Nat := 5000

def defaultMaxAttempts : Nat := 5

def default : Config where
  messaging := none
  subjectPrefix := Refresh.defaultSubjectPrefix
  refreshTimeout := defaultRefreshTimeout
  maxAttempts := defaultMaxAttempts
  suffixList := none

/-- The value of a variable that is set to more than blanks. -/
def value? (lookup : String → Option String) (name : String) : Option String :=
  (lookup name).filter fun value => !(Text.trim value.toList).isEmpty

/-- Reads a positive number up to a largest one. -/
def readPositive? (largest : Nat) (raw : String) : Option Nat :=
  (Text.readCount? largest (Text.trim raw.toList)).filter (1 ≤ ·)

/-- A number from a variable, or its default; `wanted` says in the message what it has to be. -/
def positive (lookup : String → Option String) (name wanted : String) (largest unset : Nat) :
    Except Fault Nat :=
  match value? lookup name with
  | none => .ok unset
  | some raw =>
    match readPositive? largest raw with
    | some n => .ok n
    | none => .error (.configuration s!"{name} must be a {wanted}, got {Text.quoted raw}")

def ofLookup (lookup : String → Option String) : Except Fault Config := do
  let refreshTimeout ← positive lookup refreshTimeoutVariable "positive number of milliseconds" (UInt64.size - 1)
    defaultRefreshTimeout
  let maxAttempts ← positive lookup maxAttemptsVariable "positive integer" (UInt32.size - 1) defaultMaxAttempts
  return {
    messaging := (value? lookup messagingVariable).map Messaging.ofServers
    subjectPrefix := (value? lookup subjectPrefixVariable).getD Refresh.defaultSubjectPrefix
    refreshTimeout
    maxAttempts
    suffixList := value? lookup suffixListVariable }

/-- The suffix rules of the configured file, or the bundled ones. -/
def suffixRules (config : Config) (files : Files) : Except Fault PublicSuffix.Rules :=
  match config.suffixList with
  | none => .ok .bundled
  | some path =>
    match files path with
    | .ok text => .ok (.parse text)
    | .error failure =>
      .error (.configuration s!"cannot read public suffix list {path}: {failure.text}")

end Config

end Bailiwick
