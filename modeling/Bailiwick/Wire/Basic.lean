import Bailiwick.Address.Declared
import Bailiwick.HostName.Basic
import Bailiwick.Instant.Text
import Bailiwick.Status
import Bailiwick.Uuid
import Bailiwick.Wire.Error

/-!
Wire forms: how values are written as JSON and read back. A record is written as an object; it is read
from an object, whose members are looked at in the order of their names, or from an array of its fields
in the order of their declaration. Members that are not known are passed over.
-/

namespace Bailiwick

/-- A type with a wire form. -/
class Wire (α : Type) where
  encode : α → Json
  decode : Json → Except Wire.DecodeError α

namespace Wire

open Wire (encode decode)

/-- Reads a text that has a grammar. -/
def decodeText (wanted : String) (read? : String → Option α) : Json → Except DecodeError α
  | .str s =>
    match read? s with
    | some a => .ok a
    | none => .error .malformed
  | other => .error (.invalidType other wanted)

instance : Wire String where
  encode := .str
  decode
    | .str s => .ok s
    | other => .error (.invalidType other "a string")

instance : Wire Bool where
  encode := .bool
  decode
    | .bool b => .ok b
    | other => .error (.invalidType other "a boolean")

instance : Wire UInt32 where
  encode n := .int n.toNat
  decode
    | .int n => if 0 ≤ n ∧ n < UInt32.size then .ok (UInt32.ofNat n.toNat) else .error .outOfRange
    | other => .error (.invalidType other "u32")

instance : Wire Uuid where
  encode id := .str id.text
  decode := decodeText "a formatted UUID string" Uuid.read?

instance : Wire Instant where
  encode i := .str i.text
  decode := decodeText "an RFC 3339 formatted date and time string" Instant.read?

instance : Wire IpAddress where
  encode ip := .str ip.text
  decode := decodeText "IP address" IpAddress.read?

instance : Wire HostName where
  encode name := .str name.text
  decode value := do
    match HostName.ofString (← decode value) with
    | .ok name => .ok name
    | .error refusal => .error (.refusedName refusal)

instance [Wire α] : Wire (Option α) where
  encode
    | none => .null
    | some a => encode a
  decode
    | .null => .ok none
    | value => some <$> decode value

instance [Wire α] : Wire (List α) where
  encode items := .arr (items.map encode)
  decode
    | .arr items => items.mapM decode
    | other => .error (.invalidType other "a sequence")

instance [SortOrder α] [Wire α] : Wire (SortedSet α) where
  encode s := encode s.toList
  decode value := SortedSet.ofList <$> decode value

/-- Reads the name of a variant, given all variants with their names. A variant may also be written as the
only member of an object, with nothing in it. -/
def decodeVariant (variants : List (String × α)) : Json → Except DecodeError α
  | .str name => find name
  | .obj [(name, content)] => do
    let a ← find name
    match content with
    | .null => .ok a
    | other => .error (.invalidType other "unit")
  | .obj _ => .error .notOneKey
  | other => .error (.invalidType other "string or map")
where
  find (name : String) : Except DecodeError α :=
    match variants.lookup name with
    | some a => .ok a
    | none => .error (.unknownVariant name (variants.map Prod.fst))

instance : Wire IpVersion where
  encode version := .str version.text
  decode := decodeVariant ([IpVersion.v4, .v6].map fun version => (version.text, version))

instance : Wire StatusValue where
  encode status := .str status.text
  decode := decodeVariant (StatusValue.all.map fun status => (status.text, status))

/-- A member that may be missing. -/
def member? [Wire α] (members : List (String × Json)) (name : String) : Except DecodeError (Option α) :=
  match members.filter fun entry => entry.1 == name with
  | [] => .ok none
  | [(_, value)] => some <$> decode value
  | _ => .error (.duplicateField name)

/-- The value of a field that must be present. -/
def required (name : String) : Option α → Except DecodeError α
  | some a => .ok a
  | none => .error (.missingField name)

/-- Reading of fields in their order: how many were read, and the items that are left. -/
abbrev Fields := StateT (Nat × List Json) (Except DecodeError)

/-- The next field of a record, given how the record is called where it is too short. -/
def next [Wire α] (recordName : String) : Fields α := fun (count, items) =>
  match items with
  | [] => .error (.invalidLength count recordName)
  | item :: items => do return (← decode item, (count + 1, items))

/-- The next field, or a default where the items end. -/
def nextOr [Wire α] (default : α) : Fields α := fun (count, items) =>
  match items with
  | [] => .ok (default, (count, []))
  | item :: items => do return (← decode item, (count + 1, items))

/-- Reads a record from an object or from an array. -/
def decodeRecord (name : String) (size : Nat) (ofMembers : List (String × Json) → Except DecodeError α)
    (ofFields : String → Fields α) : Json → Except DecodeError α
  | .obj members => ofMembers members
  | .arr items => do
    let (a, (_, rest)) ← ofFields s!"struct {name} with {size} elements" (0, items)
    if rest.isEmpty then .ok a else .error (.invalidLength items.length "fewer elements in array")
  | other => .error (.invalidType other s!"struct {name}")

end Wire

end Bailiwick
