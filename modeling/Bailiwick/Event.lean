import Bailiwick.Create.Lifecycle
import Bailiwick.Host
import Bailiwick.Text.Quoted

/-!
Events that the registry reports while it works, and the one line that each of them is shown as.
-/

namespace Bailiwick

inductive Event where
  | received (submitted : String) (correlation : Uuid)
  | advanced (input : Create.Input) (state : Create.State)
  | misstepped (misstep : Create.Misstep)
  | dryRunPassed (name : HostName) (correlation : Uuid)
  | created (name : HostName) (key : HostKey) (client : ClientId) (correlation : Uuid)
  | refreshQueued (name : HostName)
  | refreshRejected (name : HostName) (cause : Fault)
  /-- The refresh was not taken within a number of milliseconds. -/
  | refreshLate (name : HostName) (deadline : Nat)
  | activityRecorded (activity : String)
  | finished (submitted : String) (trail : Create.Trail)
  | failed (submitted : String) (refusal : Refusal) (trail : Create.Trail)
  | refused (submitted : String) (refusal : Refusal) (trail : Create.Trail)
  | rolledBack (attempt : Nat)
  | committed (attempt : Nat)
  | conflicted (attempt : Nat)
  | linkMissed (domain : DomainKey) (hostName : String)
  | ruleSkipped (rule : String)

namespace Event

/-- A number of milliseconds in seconds from a second on, and without trailing zeros. -/
def showMillis (ms : Nat) : String :=
  if ms = 0 then "0ns"
  else if ms < 1000 then s!"{ms}ms"
  else
    let fraction := ((Text.showPadded 10 3 (ms % 1000)).reverse.dropWhile (· = '0')).reverse
    let point := if fraction.isEmpty then [] else ['.']
    String.ofList (Text.showNat 10 (ms / 1000) ++ point ++ fraction ++ ['s'])

/-- How much an event matters, the least first. -/
inductive Level where
  | debug | info | warn | error
  deriving DecidableEq, Repr

def Level.text : Level → String
  | .debug => "DEBUG"
  | .info => "INFO"
  | .warn => "WARN"
  | .error => "ERROR"

def level : Event → Level
  | .misstepped _ => .error
  | .refreshRejected _ _ | .refreshLate _ _ | .failed _ _ _ | .linkMissed _ _ => .warn
  | .dryRunPassed _ _ | .created _ _ _ _ | .activityRecorded _ | .refused _ _ _ => .info
  | _ => .debug

def message : Event → String
  | .received submitted correlation =>
    s!"Host create received for {Text.quoted submitted} (correlation: {correlation.text})"
  | .advanced input state => s!"Host create on {input.text} → {state.text}"
  | .misstepped misstep => s!"Host create state machine rejected input: {misstep.message}"
  | .dryRunPassed name correlation =>
    s!"Dry run of host create for {name.text} passed every check (correlation: {correlation.text})"
  | .created name key client correlation =>
    s!"Created host {name.text} ({key.text}) for {client.text} (correlation: {correlation.text})"
  | .refreshQueued name => s!"Queued DNS refresh for {name.text}"
  | .refreshRejected name cause => s!"DNS refresh for {name.text} not enqueued: {cause.message}"
  | .refreshLate name deadline =>
    s!"DNS refresh for {name.text} not enqueued within {showMillis deadline}"
  | .activityRecorded activity => s!"Recorded server activity activity={activity}"
  | .finished submitted trail => s!"Host create for {Text.quoted submitted} finished: {trail.text}"
  | .failed submitted refusal trail =>
    s!"Host create for {Text.quoted submitted} failed: {refusal.message} ({trail.text})"
  | .refused submitted refusal trail =>
    let code := refusal.code.number
    s!"Host create for {Text.quoted submitted} rejected with {code}: {refusal.message} ({trail.text})"
  | .rolledBack attempt => s!"Transaction rolled back after attempt {attempt}"
  | .committed attempt => s!"Transaction committed on attempt {attempt}"
  | .conflicted attempt => s!"Transaction attempt {attempt} conflicted, retrying"
  | .linkMissed domain hostName =>
    s!"Subordinate merge for {hostName} skipped, domain {domain.text} is gone"
  | .ruleSkipped rule => s!"Skipping unparseable public suffix rule: {rule}"

/-- The line that an event is shown as. -/
def line (event : Event) : String := s!"{event.level.text} {event.message}"

end Event

end Bailiwick
