import Bailiwick.Config
import Bailiwick.Create.Flow
import Bailiwick.Json.Reader
import Bailiwick.Wire.Rows
import Bailiwick.World

/-!
The command that creates one host in a registry seeded from a file. It takes the paths of a seed and of a
request, and answers with the response and the refreshes that would follow, or with the refusal.
-/

namespace Bailiwick.CommandLine

open Wire

structure SeedDomain where
  name : String
  client : String
  pendingDelete : Bool

/-- What the registry knows before the request. -/
structure Seed where
  zones : List String
  domains : List SeedDomain

structure Submission where
  client : Option String
  dryRun : Bool
  command : Create.Command

instance : Wire SeedDomain where
  encode domain := .obj [
    ("client_id", encode domain.client),
    ("name", encode domain.name),
    ("pending_delete", encode domain.pendingDelete)]
  decode := decodeRecord "SeedDomain" 3
    (fun members => do
      let client ← member? members "client_id"
      let name ← member? members "name"
      let pendingDelete ← member? members "pending_delete"
      return {
        name := ← required "name" name
        client := ← required "client_id" client
        pendingDelete := pendingDelete.getD false })
    (fun record => return { name := ← next record, client := ← next record, pendingDelete := ← nextOr false })

instance : Wire Seed where
  encode seed := .obj [("domains", encode seed.domains), ("managed_zones", encode seed.zones)]
  decode := decodeRecord "Seed" 2
    (fun members => do
      let domains ← member? members "domains"
      let zones ← member? members "managed_zones"
      return { zones := zones.getD [], domains := domains.getD [] })
    (fun _ => return { zones := ← nextOr [], domains := ← nextOr [] })

instance : Wire Submission where
  encode submission := .obj [
    ("client_id", encode submission.client),
    ("command", encode submission.command),
    ("dry_run", encode submission.dryRun)]
  decode := decodeRecord "Request" 3
    (fun members => do
      let client ← member? members "client_id"
      let command ← member? members "command"
      let dryRun ← member? members "dry_run"
      return {
        client := client.getD none
        dryRun := dryRun.getD false
        command := ← required "command" command })
    (fun record => return { client := ← next record, dryRun := ← nextOr false, command := ← next record })

/-- What the command needs from outside; `lookup` gives the values of variables. -/
structure Environment where
  lookup : String → Option String
  files : Files
  now : Instant
  /-- An endless supply of identifiers, each used once. -/
  fresh : Nat → Uuid

def usage : String := "usage: host-create <seed.json> <request.json>"

/-- How long after the start a domain in pending delete is purged, in days. -/
def purgeAfterDays : Nat := 35

/-- Reads the JSON value in a file. -/
def readFile [Wire α] (files : Files) (path : String) : Except String α :=
  match files path with
  | .error _ => .error s!"Failed to read {path}"
  | .ok text =>
    match Json.read? text with
    | none => .error s!"Failed to parse {path}"
    | some json => (decode json).mapError fun _ => s!"Failed to parse {path}"

/-- The row of a domain of the seed. -/
def SeedDomain.row (domain : SeedDomain) (key : DomainKey) (now : Instant) : Domain :=
  let fresh := Domain.new key domain.name ⟨domain.client⟩ now
  if domain.pendingDelete then fresh.withPendingDelete (now.addDays purgeAfterDays) else fresh

/-- The store that a seed describes. -/
def Seed.store (seed : Seed) (env : Environment) : Store :=
  let zoned := seed.zones.foldl Store.addZone .empty
  seed.domains.zipIdx.foldl (fun s (domain, i) => s.putDomain (domain.row ⟨env.fresh i⟩ env.now)) zoned

/-- Carries the command out. No connection to a broker is made here, so that a configured one counts as
out of reach. -/
def run (env : Environment) (args : List String) : Except String (World × Except Refusal Create.Response) := do
  let seedPath :: requestPath :: _ := args | throw usage
  let config ← (Config.ofLookup env.lookup).mapError fun _ => "Invalid registry configuration"
  let seed : Seed ← readFile env.files seedPath
  let submission : Submission ← readFile env.files requestPath
  if config.messaging.isSome then throw "Failed to connect to NATS"
  let rules ← (config.suffixRules env.files).mapError Fault.message
  let used := seed.domains.length
  let service : Create.Service := {
    rules
    maxAttempts := config.maxAttempts
    refreshDeadline := config.refreshTimeout }
  let context : Create.Context := {
    client := submission.client.map ClientId.mk
    now := env.now
    correlation := env.fresh used
    dryRun := submission.dryRun }
  let ids := fun attempt => {
    host := ⟨env.fresh (used + 2 * attempt + 1)⟩
    entry := env.fresh (used + 2 * attempt + 2) }
  return (Create.createHost service context ids submission.command).run .calm { store := seed.store env }

/-- What is printed about an answer. -/
def report (w : World) : Except Refusal Create.Response → Json
  | .ok response => .obj [
    ("dns_refresh", encode (w.queue.map HostName.text)),
    ("response", encode response),
    ("result_code", .int ResultCode.success.number)]
  | .error refusal => .obj [
    ("message", encode refusal.message),
    ("result_code", .int refusal.code.number)]

/-- What the command leaves behind. -/
structure Outcome where
  succeeded : Bool
  answer : Option Json
  /-- What it says beside its answer, the events first; each notice ends its line. -/
  notices : List String

/-- What announces the reason why there is no answer. -/
def failureMark : String := "Error: "

/-- Carries the command out and words what comes of it. Events for debugging are not mentioned. -/
def execute (env : Environment) (args : List String) : Outcome :=
  match run env args with
  | .error message => { succeeded := false, answer := none, notices := [failureMark ++ message] }
  | .ok (w, response) =>
    let events := w.log.filter fun event => event.level ≠ .debug
    { succeeded := response.isOk
      answer := some (report w response)
      notices := events.map fun event => Text.forTerminal event.line }

end Bailiwick.CommandLine
