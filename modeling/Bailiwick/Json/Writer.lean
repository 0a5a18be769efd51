import Bailiwick.Decimal.Shortest
import Bailiwick.Json.Basic

/-!
Writing JSON texts, on one line without spaces or over several lines with an indent of two spaces. Strings
escape quotes, backslashes and control characters.
-/

namespace Bailiwick.Json

def escapeChar (c : Char) : List Char :=
  if c = '"' then ['\\', '"']
  else if c = '\\' then ['\\', '\\']
  else if c = '\x08' then ['\\', 'b']
  else if c = '\t' then ['\\', 't']
  else if c = '\n' then ['\\', 'n']
  else if c = '\x0c' then ['\\', 'f']
  else if c = '\r' then ['\\', 'r']
  else if c.toNat < 0x20 then '\\' :: 'u' :: Text.showPadded 16 4 c.toNat
  else [c]

def quote (s : String) : String :=
  "\"" ++ String.ofList (s.toList.flatMap escapeChar) ++ "\""

def brackets (s : String) : String := "[" ++ s ++ "]"

def braces (s : String) : String := "\x7b" ++ s ++ "\x7d"

mutual

/-- The text on one line. -/
def compact : Json → String
  | .null => "null"
  | .bool b => if b then "true" else "false"
  | .int n => toString n
  | .float bits => Decimal.showBits bits
  | .str s => quote s
  | .arr items => brackets (",".intercalate (compactItems items))
  | .obj members => braces (",".intercalate (compactMembers members))
  | .verbatim text => text

def compactItems : List Json → List String
  | [] => []
  | item :: items => compact item :: compactItems items

def compactMembers : List (String × Json) → List String
  | [] => []
  | (name, value) :: members => (quote name ++ ":" ++ compact value) :: compactMembers members

end

/-- A line break and the indent of a depth. -/
def newline (depth : Nat) : String := "\n" ++ String.ofList (List.replicate (2 * depth) ' ')

/-- Lines of a deeper block, separated by commas, up to the line that closes the block. -/
def block (depth : Nat) (lines : List String) : String :=
  newline (depth + 1) ++ ("," ++ newline (depth + 1)).intercalate lines ++ newline depth

mutual

/-- The text over several lines, for a value at a depth. -/
def prettyAt (depth : Nat) : Json → String
  | .arr (item :: items) => brackets (block depth (prettyItems (depth + 1) (item :: items)))
  | .obj (member :: members) => braces (block depth (prettyMembers (depth + 1) (member :: members)))
  | value => compact value

def prettyItems (depth : Nat) : List Json → List String
  | [] => []
  | item :: items => prettyAt depth item :: prettyItems depth items

def prettyMembers (depth : Nat) : List (String × Json) → List String
  | [] => []
  | (name, value) :: members => (quote name ++ ": " ++ prettyAt depth value) :: prettyMembers depth members

end

def pretty (value : Json) : String := prettyAt 0 value

end Bailiwick.Json
