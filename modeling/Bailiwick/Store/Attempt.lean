import Bailiwick.Store.Basic

/-!
One attempt at a transaction. It notes the version of each name when it first reads it from the store and
keeps its writes to itself; hosts among its own writes are seen before those of the store. It may commit
when every noted version is still current.
-/

namespace Bailiwick

/-- What an attempt has read. -/
inductive ReadKey where
  | host (name : String)
  | domain (name : String)
  deriving DecidableEq, Repr

def Store.version (s : Store) : ReadKey → Nat
  | .host name => s.hostVersion name
  | .domain name => s.domainVersion name

structure Attempt where
  /-- Versions at the first read of each key. -/
  reads : List (ReadKey × Nat) := []
  /-- Writes in the order in which they were made. -/
  writes : List Store.Write := []

namespace Attempt

def empty : Attempt := {}

/-- Notes the version of a key unless one is noted already. -/
def note (a : Attempt) (key : ReadKey) (version : Nat) : Attempt :=
  if a.reads.any fun read => read.1 = key then a else { a with reads := a.reads ++ [(key, version)] }

def write (a : Attempt) (w : Store.Write) : Attempt := { a with writes := a.writes ++ [w] }

/-- The newest active host of a name among the writes. -/
def ownHost? (a : Attempt) (name : HostName) (now : Instant) : Option Host :=
  a.writes.reverse.findSome? fun write =>
    match write with
    | .insertHost host => if host.name = name ∧ host.isActiveAt now then some host else none
    | _ => none

def loadHost (a : Attempt) (s : Store) (name : HostName) (now : Instant) : Option Host × Attempt :=
  match a.ownHost? name now with
  | some host => (some host, a)
  | none => (s.activeHost name.text now, a.note (.host name.text) (s.hostVersion name.text))

def loadDomain (a : Attempt) (s : Store) (name : String) (now : Instant) : Option Domain × Attempt :=
  (s.activeDomain name now, a.note (.domain name) (s.domainVersion name))

/-- Whether nothing that was read has changed since. -/
def isCurrent (a : Attempt) (s : Store) : Bool := a.reads.all fun (key, version) => s.version key = version

/-- The store after a commit, unless the attempt is out of date. -/
def commit? (a : Attempt) (s : Store) : Option Store :=
  if a.isCurrent s then some (s.applyAll a.writes) else none

end Attempt

end Bailiwick
