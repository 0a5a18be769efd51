import Bailiwick.Address.V6
import Bailiwick.Refusal
import Bailiwick.Text.Blank

/-!
Addresses as a client declares them, with a version and a literal. A literal has to be in the grammar of
its version once the blanks around it are gone; a list of declarations gives each address once.
-/

namespace Bailiwick

inductive IpVersion where
  | v4 | v6
  deriving DecidableEq, Repr

def IpVersion.text : IpVersion → String
  | .v4 => "v4"
  | .v6 => "v6"

inductive IpAddress where
  | v4 (ip : IPv4)
  | v6 (ip : IPv6)
  deriving DecidableEq

namespace IpAddress

def version : IpAddress → IpVersion
  | .v4 _ => .v4
  | .v6 _ => .v6

def text : IpAddress → String
  | .v4 ip => String.ofList ip.render
  | .v6 ip => String.ofList ip.render

/-- Reads a literal of either version. -/
def read? (literal : String) : Option IpAddress :=
  match IPv4.read? literal.toList with
  | some ip => some (.v4 ip)
  | none => (IPv6.read? literal.toList).map .v6

end IpAddress

structure DeclaredAddress where
  version : IpVersion
  literal : String
  deriving DecidableEq, Repr

namespace DeclaredAddress

/-- The address that a declaration names. -/
def parse (declared : DeclaredAddress) : Except Refusal IpAddress :=
  let literal := Text.trim declared.literal.toList
  match declared.version, IPv4.read? literal, IPv6.read? literal with
  | .v4, some ip, _ => .ok (.v4 ip)
  | .v6, _, some ip => .ok (.v6 ip)
  | .v4, none, some _ => .error (.ipAddressVersionMismatch declared.literal)
  | .v6, some _, none => .error (.ipAddressVersionMismatch declared.literal)
  | _, none, none => .error (.invalidIpAddress declared.literal)

/-- Appends the addresses that declarations name to those already known, each once and in order. -/
def parseOnto (known : List IpAddress) : List DeclaredAddress → Except Refusal (List IpAddress)
  | [] => .ok known
  | declared :: rest =>
    match declared.parse with
    | .error refusal => .error refusal
    | .ok ip => parseOnto (if ip ∈ known then known else known ++ [ip]) rest

/-- The distinct addresses that declarations name, in the order in which they first occur. -/
def parseAll (declared : List DeclaredAddress) : Except Refusal (List IpAddress) := parseOnto [] declared

end DeclaredAddress

end Bailiwick
