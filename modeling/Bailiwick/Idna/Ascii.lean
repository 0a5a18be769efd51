import Bailiwick.Idna.Label
import Bailiwick.Text.Pieces

/-!
The ASCII form of an internationalized name. The name is mapped, normalized and split at its dots; each
label is checked and written in ASCII; empty labels stay. A name that breaks a rule has no ASCII form.
-/

namespace Bailiwick.Idna

/-- The labels of a name, where every one of them and their combination follow the rules. -/
def labels? (name : List Char) : Option (List Label) := do
  let mapped ← mapText name
  let labels ← (Text.splitAt '.' (Unicode.normalize mapped)).mapM Label.ofMapped
  if labels.all Label.isValid && (!labels.any Label.isRightToLeft || labels.all Label.keepsDirection) then
    some labels
  else none

/-- The ASCII form of a name. -/
def toAscii (name : List Char) : Option (List Char) :=
  (labels? name).map fun labels => Text.joinWith '.' (labels.map Label.ascii)

end Bailiwick.Idna
