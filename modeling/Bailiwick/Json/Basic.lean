/-!
JSON values. Whole numbers of 64 bits are kept exactly and all other numbers as the bits of the nearest
binary64 number. An object keeps its members in the order in which they were written. What is well-formed
and yet has no value, such as a number out of range, is kept as a text.
-/

namespace Bailiwick

inductive Json where
  | null
  | bool (value : Bool)
  | int (value : Int)
  | float (bits : UInt64)
  | str (value : String)
  | arr (items : List Json)
  | obj (members : List (String × Json))
  /-- A number out of range, a string that is not Unicode, or an object with such a name, as it is written. It
  can be passed over but not read. -/
  | verbatim (text : String)

namespace Json

/-- The value of a member of an object. -/
def member? (name : String) : Json → Option Json
  | .obj members => members.lookup name
  | _ => none

def ofOption (encode : α → Json) : Option α → Json
  | none => .null
  | some a => encode a

def ofList (encode : α → Json) (items : List α) : Json := .arr (items.map encode)

end Json

end Bailiwick
