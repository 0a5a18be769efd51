import Bailiwick.Decimal.Shortest
import Bailiwick.Json.Basic
import Bailiwick.Refusal
import Bailiwick.Text.Quoted

/-!
What can be wrong with a JSON value that is to be read as a value of some type, and how it is worded.
-/

namespace Bailiwick.Wire

inductive DecodeError where
  | missingField (name : String)
  | duplicateField (name : String)
  | unknownVariant (found : String) (known : List String)
  | invalidType (found : Json) (wanted : String)
  | invalidLength (found : Nat) (wanted : String)
  /-- A variant written as an object that has not exactly one member. -/
  | notOneKey
  | refusedName (refusal : Refusal)
  /-- A number that does not fit its type. -/
  | outOfRange
  /-- A text that is not in the grammar of its type. -/
  | malformed

/-- How a value is called in a message. -/
def describe : Json → String
  | .null => "null"
  | .bool b => s!"boolean `{b}`"
  | .int n => s!"integer `{n}`"
  | .float bits => s!"floating point `{Decimal.showBits bits}`"
  | .str s => s!"string {Text.quoted s}"
  | .arr _ => "sequence"
  | .obj _ => "map"
  | .verbatim text => text

def tick (s : String) : String := s!"`{s}`"

/-- The known variants, as a message lists them. -/
def listVariants : List String → String
  | [] => "there are no variants"
  | [a] => s!"expected {tick a}"
  | [a, b] => s!"expected {tick a} or {tick b}"
  | names => "expected one of " ++ ", ".intercalate (names.map tick)

/-- The message, for errors that have one wording. -/
def DecodeError.message? : DecodeError → Option String
  | .missingField name => some s!"missing field {tick name}"
  | .duplicateField name => some s!"duplicate field {tick name}"
  | .unknownVariant found known => some s!"unknown variant {tick found}, {listVariants known}"
  | .invalidType found wanted => some s!"invalid type: {describe found}, expected {wanted}"
  | .invalidLength found wanted => some s!"invalid length {found}, expected {wanted}"
  | .notOneKey => some "invalid value: map, expected map with a single key"
  | .refusedName refusal => some refusal.message
  | .outOfRange => none
  | .malformed => none

end Bailiwick.Wire
