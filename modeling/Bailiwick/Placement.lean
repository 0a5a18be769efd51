import Bailiwick.Host

/-!
Where a host stands. A host under a managed zone is subordinate to a domain of that zone and needs glue
addresses; any other host is external and must not have addresses. Every host is at least two labels
below the registry suffix that it falls under.
-/

namespace Bailiwick

inductive Placement where
  | external
  | subordinate (domain : Domain)
  deriving DecidableEq

namespace Placement

def superordinate? : Placement → Option Domain
  | .external => none
  | .subordinate domain => some domain

def isSubordinate : Placement → Bool
  | .external => false
  | .subordinate _ => true

/-- The addresses that declarations name, if a host of this placement may have them. -/
def resolveAddresses (placement : Placement) (declared : List DeclaredAddress) :
    Except Refusal (List IpAddress) := do
  let addresses ← DeclaredAddress.parseAll declared
  match placement with
  | .subordinate _ => if addresses.isEmpty then throw .subordinateHostMustHaveIp else return addresses
  | .external => if addresses.isEmpty then return addresses else throw .unexpectedExternalHostIp

end Placement

namespace HostName

/-- The labels a host name has at least in front of its suffixes. -/
def minLabelsBelowSuffix : Nat := 2

/-- The number of labels of the longer suffix; the last label alone is a suffix of every name. -/
def effectiveSuffixLabels (publicSuffix managedZone : Option String) : Nat :=
  max 1 (max ((publicSuffix.map countLabels).getD 0) ((managedZone.map countLabels).getD 0))

def checkDepth (name : HostName) (publicSuffix managedZone : Option String) : Except Refusal Unit :=
  if name.labelCount < effectiveSuffixLabels publicSuffix managedZone + minLabelsBelowSuffix then
    throw .hostNameTooShallow
  else pure ()

end HostName

end Bailiwick
