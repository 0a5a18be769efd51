/-!
Why a request gets no host. A refusal names what is wrong with the request or with the state it meets, and
carries the text the client needs to mend it; a fault of the store or of messaging is kept apart, as the
same request may succeed when repeated.
-/

namespace Bailiwick

/-- A failure of the surroundings, not of the request. -/
inductive Fault where
  | storeUnavailable (reason : String)
  | retriesExhausted (attempts : Nat)
  | connection (reason : String)
  | publishing (reason : String)
  | serialization (reason : String)
  | configuration (reason : String)
  deriving DecidableEq, Repr

def Fault.message : Fault → String
  | .storeUnavailable reason => s!"Store unavailable: {reason}"
  | .retriesExhausted attempts => s!"Transaction retries exhausted after {attempts} attempts"
  | .connection reason => s!"NATS connection error: {reason}"
  | .publishing reason => s!"NATS publish error: {reason}"
  | .serialization reason => s!"Serialization error: {reason}"
  | .configuration reason => s!"Configuration error: {reason}"

inductive Refusal where
  | notLoggedIn
  | invalidHostName
  | hostNameNotLowerCase (expected : String)
  | hostNameNotPunyCoded (expected : String)
  | hostNameNotNormalized (expected : String)
  | hostNameTooLong
  | hostNameTooShallow
  | subordinateHostMustHaveIp
  | unexpectedExternalHostIp
  | ipAddressVersionMismatch (literal : String)
  | invalidIpAddress (literal : String)
  | superordinateDomainDoesNotExist (domain : String)
  | superordinateDomainInPendingDelete (domain : String)
  | alreadyExistsForThisClient (name : String)
  | createContention (name : String)
  | fault (cause : Fault)
  deriving DecidableEq, Repr

def Refusal.message : Refusal → String
  | .notLoggedIn => "Registrar is not logged in"
  | .invalidHostName => "Invalid host name"
  | .hostNameNotLowerCase expected => s!"Host names must be in lower-case; expected {expected}"
  | .hostNameNotPunyCoded expected => s!"Host names must be puny-coded; expected {expected}"
  | .hostNameNotNormalized expected => s!"Host names must be in normalized format; expected {expected}"
  | .hostNameTooLong => "Host names are limited to 253 characters"
  | .hostNameTooShallow => "Host name must be at least two levels below the registry suffix"
  | .subordinateHostMustHaveIp => "Subordinate hosts must have an ip address"
  | .unexpectedExternalHostIp => "External hosts must not have ip addresses"
  | .ipAddressVersionMismatch literal => s!"IP address version mismatch: {literal}"
  | .invalidIpAddress literal => s!"Invalid IP address: {literal}"
  | .superordinateDomainDoesNotExist domain => s!"Superordinate domain ({domain}) does not exist"
  | .superordinateDomainInPendingDelete _ => "Superordinate domain for this hostname is in pending delete"
  | .alreadyExistsForThisClient name => s!"Object with given ID ({name}) already exists"
  | .createContention name =>
    s!"Object with given ID ({name}) already exists; another registrar holds it or a concurrent create won"
  | .fault cause => cause.message

/-- Whether the same request may succeed when it is repeated. -/
def Refusal.isTransient : Refusal → Bool
  | .fault _ => true
  | _ => false

/-- The result codes of the registry protocol that a create can end with. -/
inductive ResultCode where
  | success
  | commandUseError
  | requiredParameterMissing
  | parameterValueSyntaxError
  | objectExists
  | objectDoesNotExist
  | statusProhibitsOperation
  | parameterValuePolicyError
  | commandFailed
  deriving DecidableEq, Repr

def ResultCode.number : ResultCode → Nat
  | .success => 1000
  | .commandUseError => 2002
  | .requiredParameterMissing => 2003
  | .parameterValueSyntaxError => 2005
  | .objectExists => 2302
  | .objectDoesNotExist => 2303
  | .statusProhibitsOperation => 2304
  | .parameterValuePolicyError => 2306
  | .commandFailed => 2400

/-- The result code that a refusal is reported with. -/
def Refusal.code : Refusal → ResultCode
  | .notLoggedIn => .commandUseError
  | .invalidHostName => .parameterValueSyntaxError
  | .hostNameNotLowerCase _ => .parameterValueSyntaxError
  | .hostNameNotPunyCoded _ => .parameterValueSyntaxError
  | .hostNameNotNormalized _ => .parameterValueSyntaxError
  | .hostNameTooLong => .parameterValueSyntaxError
  | .hostNameTooShallow => .parameterValuePolicyError
  | .subordinateHostMustHaveIp => .requiredParameterMissing
  | .unexpectedExternalHostIp => .parameterValuePolicyError
  | .ipAddressVersionMismatch _ => .parameterValueSyntaxError
  | .invalidIpAddress _ => .parameterValueSyntaxError
  | .superordinateDomainDoesNotExist _ => .objectDoesNotExist
  | .superordinateDomainInPendingDelete _ => .statusProhibitsOperation
  | .alreadyExistsForThisClient _ => .objectExists
  | .createContention _ => .objectExists
  | .fault _ => .commandFailed

end Bailiwick
