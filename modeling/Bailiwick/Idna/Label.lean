import Bailiwick.Idna.Mapping
import Bailiwick.Idna.Punycode
import Bailiwick.Unicode.Bidi
import Bailiwick.Unicode.Canonical
import Bailiwick.Unicode.Joining

/-!
Single labels of a mapped name. A label stands for a text and has an ASCII form; a label that begins with
`xn--` is taken as the ASCII form of the text it decodes to, and any other label is its own text. The
rules on length, marks, invisible joiners and writing direction look at the text.
-/

namespace Bailiwick.Idna

open Unicode

def isAsciiText (s : List Char) : Bool := s.all fun c => c.toNat < 0x80

/-- What announces an encoded label. -/
def acePrefix : List Char := ['x', 'n', '-', '-']

/-- Whether a text is short enough for a label; ASCII texts have no limit here. -/
def hasLabelLength (s : List Char) : Bool := isAsciiText s || s.length ≤ 1000

/-- Whether a decoded text is one that encoding could have started from. -/
def isEncodable (s : List Char) : Bool :=
  hasLabelLength s && normalize s == s && s.all fun c => c ≠ '.' && !c.isUpper && isFixed c

structure Label where
  /-- What the label stands for. -/
  text : List Char
  /-- How the label is written in ASCII. -/
  ascii : List Char

/-- Reads a label of a mapped and normalized name. -/
def Label.ofMapped (s : List Char) : Option Label :=
  if acePrefix.isPrefixOf s then
    let encoded := s.drop acePrefix.length
    if !isAsciiText s || s.getLast? == some '-' || 2000 < encoded.length then none
    else match Punycode.decode encoded with
      | some text => if isEncodable text then some { text, ascii := s } else none
      | none => none
  else if isAsciiText s then some { text := s, ascii := s }
  else if hasLabelLength s then some { text := s, ascii := acePrefix ++ Punycode.encode s }
  else none

/-- Whether the text before a joiner, in reverse, and the one after it are connected across it. -/
def joinsAcross (before after : List Char) : Bool :=
  let visible := fun c => joiningType c ≠ .transparent
  match before.find? visible, after.find? visible with
  | some a, some b => joiningType a = .dual && (joiningType b = .dual || joiningType b = .right)
  | _, _ => false

/-- Whether every invisible joiner has its context, given what stands before the text in reverse. -/
def joinersInContext (before : List Char) : List Char → Bool
  | [] => true
  | c :: rest =>
    let fits :=
      if c = '\u200C' || c = '\u200D' then
        match before with
        | [] => false
        | last :: _ => isVirama last || (c = '\u200C' && joinsAcross before rest)
      else true
    fits && joinersInContext (c :: before) rest

/-- The rules that a label follows whatever the other labels are. -/
def Label.isValid (label : Label) : Bool :=
  !(label.text.head?.any isMark) && joinersInContext [] label.text

/-- Whether a label brings a right-to-left character or number into the name. -/
def Label.isRightToLeft (label : Label) : Bool :=
  label.text.any fun c => [BidiClass.r, .al, .an].contains (bidiClass c)

/-- The rule on writing direction: a label keeps to one direction and ends in a letter or number of it. -/
def Label.keepsDirection (label : Label) : Bool :=
  match label.text.map bidiClass with
  | [] => true
  | first :: others =>
    let body := (others.reverse.dropWhile (· = BidiClass.nsm)).reverse
    match body.getLast? with
    | none => [BidiClass.l, .r, .al].contains first
    | some last =>
      if first = .l then
        [BidiClass.l, .en].contains last
          && body.all fun b => [BidiClass.l, .en, .es, .cs, .et, .on, .bn, .nsm].contains b
      else if first = .r || first = .al then
        [BidiClass.r, .al, .en, .an].contains last
          && (body.all fun b => [BidiClass.r, .al, .an, .en, .es, .cs, .et, .on, .bn, .nsm].contains b)
          && !(body.contains .en && body.contains .an)
      else false

end Bailiwick.Idna
