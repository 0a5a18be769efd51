import Bailiwick.CommandLine
import Bailiwick.Json.Writer
import Std.Time.DateTime.Timestamp

/-!
The command as a program: it looks up variables and files, the time and a supply of random identifiers,
and prints what the command answers. What it says beside that goes to the standard error.
-/

namespace Bailiwick.Main

/-- Reads a file and classifies what may go wrong. -/
def readFile (path : String) : IO (Except ReadFailure String) := do
  try
    let bytes ← IO.FS.readBinFile path
    return match String.fromUTF8? bytes with
      | some text => .ok text
      | none => .error .notText
  catch
    | .noFileOrDirectory _ _ _ | .noSuchThing _ _ _ => return .error .missing
    | .inappropriateType _ _ _ => return .error .isDirectory
    | e => return .error (.other (toString e))

/-- The variables that the command looks at. -/
def readVariables : IO (String → Option String) := do
  let names := [Config.messagingVariable, Config.subjectPrefixVariable, Config.refreshTimeoutVariable,
    Config.maxAttemptsVariable, Config.suffixListVariable]
  let entries ← names.mapM fun name => return (name, ← IO.getEnv name)
  return fun name => (entries.lookup name).join

/-- The files with the given paths. -/
def readFiles (paths : List String) : IO Files := do
  let entries ← paths.mapM fun path => return (path, ← readFile path)
  return fun path => (entries.lookup path).getD (.error .missing)

/-- Milliseconds since the start of 1970, the version, the variant, and random bits with the number of the
identifier added. -/
def identifier (milliseconds random number : Nat) : Uuid :=
  let time := BitVec.ofNat 48 milliseconds
  let tail := BitVec.ofNat 62 (random + number)
  ⟨time ++ 7#4 ++ 0#12 ++ 2#2 ++ tail⟩

def readClock : IO Instant := do
  let now ← Std.Time.Timestamp.now
  let nanos := now.val.nano.val.toNat
  return {
    seconds := now.val.second.val
    nanos := nanos % 1000000000
    nanos_lt := .inl (Nat.mod_lt _ (by decide)) }

end Bailiwick.Main

def main (args : List String) : IO UInt32 := do
  let lookup ← Bailiwick.Main.readVariables
  let listed := (Bailiwick.Config.value? lookup Bailiwick.Config.suffixListVariable).toList
  let files ← Bailiwick.Main.readFiles (args.take 2 ++ listed)
  let now ← Bailiwick.Main.readClock
  let random ← IO.rand 0 (Nat.pow 2 62 - 1)
  let milliseconds := now.seconds.toNat * 1000 + now.nanos / 1000000
  let fresh := Bailiwick.Main.identifier milliseconds random
  let outcome := Bailiwick.CommandLine.execute { lookup, files, now, fresh } args
  for notice in outcome.notices do IO.eprintln notice
  for answer in outcome.answer do IO.println answer.pretty
  return if outcome.succeeded then 0 else 1
