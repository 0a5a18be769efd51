import Bailiwick.Idna.Ascii
import Bailiwick.Refusal

/-!
Texts submitted as host names. A text is checked for its characters, case, encoding, form and length, in
this order, and the first check that fails decides the refusal. Where the text has a canonical form the
refusal carries the text with that one fault mended.
-/

namespace Bailiwick.HostName

open Text

/-- ASCII letters, digits, hyphens and dots; whatever is not ASCII is left to the conversion. -/
def isPermitted (c : Char) : Bool := c.isAlphanum || c = '-' || c = '.' || 0x80 ≤ c.toNat

def hasOuterHyphen (label : List Char) : Bool := label.head? = some '-' || label.getLast? = some '-'

/-- Whether a text has only permitted characters and no label that begins or ends with a hyphen. -/
def isWellFormed (raw : List Char) : Bool :=
  !raw.isEmpty && raw.all isPermitted && !(splitAt '.' raw).any hasOuterHyphen

/-- The conversions that a text is compared with the outcome of. -/
structure Conversions where
  lower : List Char → List Char
  ascii? : List Char → Option (List Char)

/-- The conversions that host names are checked by. -/
def Conversions.standard : Conversions := ⟨Unicode.lowercase, Idna.toAscii⟩

/-- The ASCII form of a text, where it is well-formed too. -/
def Conversions.toAscii? (conversions : Conversions) (raw : List Char) : Option (List Char) :=
  (conversions.ascii? raw).filter isWellFormed

/-- A text without its empty labels. -/
def dropEmptyLabels (raw : List Char) : List Char :=
  joinWith '.' ((splitAt '.' raw).filter fun label => !label.isEmpty)

/-- The length of a name on the wire: an octet in front of each label and one for the root. -/
def encodedLength (raw : List Char) : Nat :=
  (splitAt '.' raw).foldr (fun label rest => label.length + 1 + rest) 1

def maxEncodedLength : Nat := 255

def maxLabelLength : Nat := 63

/-- The first fault of a text submitted as a host name, by some conversions. -/
def checkBy (conversions : Conversions) (raw : List Char) : Except Refusal Unit :=
  if !isWellFormed raw then throw .invalidHostName
  else
    let lower := conversions.lower raw
    if lower ≠ raw then throw (.hostNameNotLowerCase (String.ofList lower))
    else match conversions.toAscii? raw with
      | none => throw .invalidHostName
      | some ascii =>
        if ascii ≠ raw then throw (.hostNameNotPunyCoded (String.ofList ascii))
        else
          let normal := dropEmptyLabels raw
          if normal.isEmpty then throw .invalidHostName
          else if normal ≠ raw then throw (.hostNameNotNormalized (String.ofList normal))
          else if maxEncodedLength < encodedLength raw then throw .hostNameTooLong
          else if (splitAt '.' raw).any fun label => maxLabelLength < label.length then
            throw .invalidHostName
          else pure ()

/-- The form of a text in which it could be accepted, whatever its length: in lower case, in ASCII and
without empty labels. -/
def canonicalFormBy (conversions : Conversions) (raw : List Char) : Option (List Char) :=
  if isWellFormed raw then
    match conversions.toAscii? (conversions.lower raw) with
    | some ascii =>
      let normal := dropEmptyLabels ascii
      if normal.isEmpty then none else some normal
    | none => none
  else none

/-- The first fault of a text submitted as a host name. -/
def check (raw : List Char) : Except Refusal Unit := checkBy .standard raw

def canonicalForm (raw : List Char) : Option (List Char) := canonicalFormBy .standard raw

end Bailiwick.HostName
