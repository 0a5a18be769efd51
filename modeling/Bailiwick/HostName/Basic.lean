import Bailiwick.HostName.Text

/-!
Host names: texts that passed every check. A name is seen as its labels, from the host to the top level;
its suffixes are what follows its dots.
-/

namespace Bailiwick

/-- A text accepted as a host name. -/
structure HostName where
  text : String
  accepted : HostName.check text.toList = .ok ()
  deriving DecidableEq

namespace HostName

open Text

/-- A name is its text. -/
theorem text_injective {m n : HostName} (h : m.text = n.text) : m = n := by
  cases m
  cases n
  cases h
  rfl

instance : Repr HostName where
  reprPrec name _ := repr name.text

/-- Accepts a text as a host name, or says which check it fails first. -/
def parse (raw : String) : Except Refusal HostName :=
  match h : check raw.toList with
  | .ok () => .ok ⟨raw, h⟩
  | .error refusal => .error refusal

/-- The conversion of an owned text. -/
def ofString (value : String) : Except Refusal HostName := parse value

/-- The conversion of a borrowed text. -/
def ofSlice (value : String.Slice) : Except Refusal HostName := parse value.copy

/-- The canonical form of a text, as a text. -/
def canonical? (raw : String) : Option String := (canonicalForm raw.toList).map String.ofList

/-- The labels of a dotted text from left to right. -/
def labelsOf (text : String) : List String := (splitAt '.' text.toList).map String.ofList

/-- The number of labels of a dotted text. -/
def countLabels (text : String) : Nat := (splitAt '.' text.toList).length

def labels (name : HostName) : List String := labelsOf name.text

def labelCount (name : HostName) : Nat := countLabels name.text

/-- What follows the dot with the given number, counted from 1; the whole text for number 0. -/
def afterDot : Nat → List Char → List Char
  | 0, s => s
  | _ + 1, [] => []
  | n + 1, c :: rest => if c = '.' then afterDot n rest else afterDot (n + 1) rest

/-- The text of the rightmost labels, as many as asked for and there are. -/
def suffix (name : HostName) (count : Nat) : String :=
  if count = 0 then ""
  else String.ofList (afterDot (name.labelCount - count) name.text.toList)

/-- What follows each dot of a text, from left to right. -/
def tailsAtDots : List Char → List (List Char)
  | [] => []
  | c :: rest => if c = '.' then rest :: tailsAtDots rest else tailsAtDots rest

/-- The suffixes with fewer labels than the name, the longest first. -/
def properSuffixes (name : HostName) : List String :=
  (tailsAtDots name.text.toList).map String.ofList

end HostName

end Bailiwick
