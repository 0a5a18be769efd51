import Bailiwick.Address.V4

/-!
IPv6 addresses and their text: eight hexadecimal groups between colons. Two adjoining colons stand for a
run of zero groups, and the last two groups may be written as an IPv4 address. The text that is written
shortens the first of the longest runs of at least two zero groups, and shows an IPv4 tail only where the
address stands for one.
-/

namespace Bailiwick

structure IPv6 where
  groups : List UInt16
  length_groups : groups.length = 8 := by rfl
  deriving DecidableEq

namespace IPv6

def showGroup (group : UInt16) : List Char := Text.showNat 16 group.toNat

def showGroups (groups : List UInt16) : List Char := Text.joinWith ':' (groups.map showGroup)

/-- How many zero groups follow from each position on. -/
def zeroRuns : List UInt16 → List Nat
  | [] => []
  | group :: rest =>
    let runs := zeroRuns rest
    (if group = 0 then runs.headD 0 + 1 else 0) :: runs

/-- Where the first of the longest runs of zero groups starts, and its length. -/
def longestZeroRun (groups : List UInt16) : Nat × Nat :=
  let runs := zeroRuns groups
  let longest := runs.foldl max 0
  (runs.idxOf longest, longest)

/-- The IPv4 address that an address stands for. -/
def mapped? : List UInt16 → Option IPv4
  | [0, 0, 0, 0, 0, 0xFFFF, high, low] =>
    some ⟨(high >>> 8).toUInt8, high.toUInt8, (low >>> 8).toUInt8, low.toUInt8⟩
  | _ => none

def render (ip : IPv6) : List Char :=
  match mapped? ip.groups with
  | some v4 => "::ffff:".toList ++ v4.render
  | none =>
    let (start, length) := longestZeroRun ip.groups
    if length < 2 then showGroups ip.groups
    else showGroups (ip.groups.take start) ++ ':' :: ':' :: showGroups (ip.groups.drop (start + length))

def readGroup? (s : List Char) : Option UInt16 :=
  if 4 < s.length then none else (Text.readNat? 16 s).map UInt16.ofNat

/-- The two groups that an IPv4 address fills. -/
def groupsOfV4 (ip : IPv4) : List UInt16 :=
  [ip.a.toUInt16 <<< 8 ||| ip.b.toUInt16, ip.c.toUInt16 <<< 8 ||| ip.d.toUInt16]

/-- Reads the pieces between colons as groups; an IPv4 address may stand last where `tail` says so. -/
def readPieces? (tail : Bool) : List (List Char) → Option (List UInt16)
  | [] => some []
  | [piece] =>
    match readGroup? piece with
    | some group => some [group]
    | none => if tail then (IPv4.read? piece).map groupsOfV4 else none
  | piece :: next :: pieces => do
    let group ← readGroup? piece
    let groups ← readPieces? tail (next :: pieces)
    return group :: groups

/-- Reads one side of the shortened run. -/
def readSide? (tail : Bool) (s : List Char) : Option (List UInt16) :=
  if s.isEmpty then some [] else readPieces? tail (Text.splitAt ':' s)

/-- The parts of a text before and after the first two adjoining colons. -/
def splitRun? : List Char → Option (List Char × List Char)
  | ':' :: ':' :: rest => some ([], rest)
  | c :: rest => (splitRun? rest).map fun (before, after) => (c :: before, after)
  | [] => none

def ofGroups? (groups : List UInt16) : Option IPv6 :=
  if h : groups.length = 8 then some ⟨groups, h⟩ else none

def read? (s : List Char) : Option IPv6 :=
  match splitRun? s with
  | none => readPieces? true (Text.splitAt ':' s) >>= ofGroups?
  | some (before, after) => do
    let front ← readSide? false before
    let back ← readSide? true after
    let missing := 8 - (front.length + back.length)
    if missing = 0 then none else ofGroups? (front ++ List.replicate missing 0 ++ back)

end IPv6

end Bailiwick
