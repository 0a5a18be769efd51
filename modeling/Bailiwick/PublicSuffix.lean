import Bailiwick.HostName.Basic
import Bailiwick.SortedSet
import Bailiwick.Text.Blank

/-!
Public suffix rules. A rule names a suffix, or with `*.` in front every name one label longer than the one
it gives, or with `!` in front an exception to the latter. A text holds one rule per line, read up to the
first blank; lines of comment start with two slashes, and a rule without an ASCII form is skipped. The
public suffix of a name is found by walking from the whole name towards its last label.
-/

namespace Bailiwick.PublicSuffix

open Text

inductive RuleKind where
  | exact | wildcard | exception
  deriving DecidableEq, Repr

structure Rules where
  exact : SortedSet String
  /-- What follows the `*.` of the wildcard rules. -/
  wildcard : SortedSet String
  /-- What follows the `!` of the exceptions. -/
  exception : SortedSet String
  deriving DecidableEq, Repr

namespace Rules

def empty : Rules := ⟨.empty, .empty, .empty⟩

def add (rules : Rules) : RuleKind → String → Rules
  | .exact, name => { rules with exact := rules.exact.insert name }
  | .wildcard, name => { rules with wildcard := rules.wildcard.insert name }
  | .exception, name => { rules with exception := rules.exception.insert name }

def size (rules : Rules) : Nat :=
  rules.exact.toList.length + rules.wildcard.toList.length + rules.exception.toList.length

end Rules

/-- The rule that a line holds as its first word, unless it is blank or a comment. -/
def wordOfLine? (line : List Char) : Option (List Char) :=
  match firstWord line with
  | [] => none
  | '/' :: '/' :: _ => none
  | word => some word

/-- The kind of a rule and the name it is about. -/
def splitRule : List Char → RuleKind × List Char
  | '!' :: name => (.exception, name)
  | '*' :: '.' :: name => (.wildcard, name)
  | name => (.exact, name)

/-- A rule with its name in ASCII, unless the name has no such form or an empty one. -/
def readRule? (word : List Char) : Option (RuleKind × String) :=
  let (kind, name) := splitRule word
  match Idna.toAscii name with
  | none => none
  | some [] => none
  | some ascii => some (kind, String.ofList ascii)

/-- The rules of a text as they are written. -/
def words (text : String) : List (List Char) := (splitAt '\n' text.toList).filterMap wordOfLine?

/-- Reads a text of rules. -/
def Rules.parse (text : String) : Rules :=
  ((words text).filterMap readRule?).foldl (fun rules (kind, name) => rules.add kind name) .empty

/-- The rules of a text that are skipped. -/
def skipped (text : String) : List String :=
  ((words text).filter fun word => (readRule? word).isNone).map String.ofList

/-- What follows the first dot of a name, if it has one. -/
def parent? (name : String) : Option String :=
  match HostName.tailsAtDots name.toList with
  | [] => none
  | rest :: _ => some (String.ofList rest)

/-- What a rule set says about one candidate: nothing, or the public suffix if any. -/
def Rules.verdict? (rules : Rules) (candidate : String) : Option (Option String) :=
  if candidate ∈ rules.exception then some (parent? candidate)
  else if candidate ∈ rules.exact then some (some candidate)
  else if (parent? candidate).any (· ∈ rules.wildcard) then some (some candidate)
  else none

/-- The verdict on the first candidate that has one. -/
def Rules.firstVerdict (rules : Rules) : List String → Option String
  | [] => none
  | candidate :: rest =>
    match rules.verdict? candidate with
    | some suffix => suffix
    | none => rules.firstVerdict rest

/-- The longest public suffix of a name. -/
def Rules.longest (rules : Rules) (name : HostName) : Option String :=
  rules.firstVerdict (name.text :: name.properSuffixes)

/-- The rules that are used where no others are given. -/
def bundledText : String :=
  "com
net
org
info
biz
lol
app
dev

// country codes
uk
co.uk
org.uk
ac.uk
gov.uk
ltd.uk
plc.uk
jp
co.jp
ne.jp
or.jp
ac.jp
de
fr
au
com.au
net.au
org.au
nz
co.nz
br
com.br
in
co.in

// wildcards with exceptions
ck
*.ck
!www.ck
bd
*.bd

// internationalized
xn--q9jyb4c
"

def Rules.bundled : Rules := .parse bundledText

end Bailiwick.PublicSuffix
