/-!
Reading of files, as far as the registry looks at it: a text, or the reason why there is none. Files may be
held in memory, in a working directory from which paths start that do not begin with a slash.
-/

namespace Bailiwick

inductive ReadFailure where
  | missing
  | isDirectory
  | notDirectory
  | nameTooLong
  | notText
  /-- Any other failure, in the words of the system. -/
  | other (reason : String)
  deriving DecidableEq, Repr

def ReadFailure.text : ReadFailure → String
  | .missing => "No such file or directory (os error 2)"
  | .isDirectory => "Is a directory (os error 21)"
  | .notDirectory => "Not a directory (os error 20)"
  | .nameTooLong => "File name too long (os error 36)"
  | .notText => "stream did not contain valid UTF-8"
  | .other reason => reason

/-- The text of the file at each path. -/
abbrev Files := String → Except ReadFailure String

namespace Files

/-- What a path leads to. -/
inductive Node where
  | directory
  | file (content : Except ReadFailure String)

/-- A file or directory in memory, under the names on the way to it. -/
structure Entry where
  path : List String
  node : Node

/-- The parts of a path between slashes. -/
def parts (path : String) : List String := path.splitOn "/"

/-- Parts that lead nowhere. -/
def isIdle (part : String) : Bool := part = "" || part = "."

/-- The entry of a file, given its path as a text. -/
def Entry.ofPath (path : String) (content : Except ReadFailure String) : Entry :=
  ⟨(parts path).filter fun part => !isIdle part, .file content⟩

/-- The most bytes that one part of a path may have. -/
def longestName : Nat := 255

/-- The most bytes that a path may have. -/
def longestPath : Nat := 4095

/-- Follows the parts of a path in a place where no name is known. -/
def followBlindly : List String → Except ReadFailure String
  | [] => .error .isDirectory
  | part :: rest =>
    if isIdle part || part = ".." then followBlindly rest
    else if longestName < part.utf8ByteSize then .error .nameTooLong
    else .error .missing

/-- Follows the parts of a path from a directory on, below a starting directory. Above it no name is known,
unless it is the top of all directories, which is above itself. -/
def follow (entries : List Entry) (isTop : Bool) (here : List String) : List String → Except ReadFailure String
  | [] => .error .isDirectory
  | part :: rest =>
    if isIdle part then follow entries isTop here rest
    else if part = ".." then
      if here.isEmpty && !isTop then followBlindly rest else follow entries isTop here.dropLast rest
    else if longestName < part.utf8ByteSize then .error .nameTooLong
    else
      let there := here ++ [part]
      let below := entries.filter fun entry => there.isPrefixOf entry.path
      match below.find? fun entry => entry.path = there with
      | some ⟨_, .file content⟩ => if rest.isEmpty then content else .error .notDirectory
      | _ => if below.isEmpty then .error .missing else follow entries isTop there rest

/-- What every system holds: its usual directories, and a device that is always empty. -/
def systemEntries : List Entry :=
  ⟨["dev", "null"], .file (.ok "")⟩ ::
    (["bin", "boot", "dev", "etc", "home", "lib", "media", "mnt", "opt", "proc", "root", "run", "sbin", "srv",
      "sys", "tmp", "usr", "var"].map fun name => ⟨[name], .directory⟩)

/-- The files of a working directory, beside those that every system holds. -/
def ofEntries (entries : List Entry) : Files := fun path =>
  if path.toList.contains '\x00' then .error (.other "file name contained an unexpected NUL byte")
  else if longestPath < path.utf8ByteSize then .error .nameTooLong
  else match parts path with
    | [] | [""] => .error .missing
    | "" :: rest => follow systemEntries true [] rest
    | first :: rest => follow entries false [] (first :: rest)

end Files

end Bailiwick
