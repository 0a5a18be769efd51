import Bailiwick.Work

/-!
The registry with what surrounds it: the store, the queue of refresh requests, the records of activity and
the events reported so far. The surroundings decide which calls of the store fail and how the queue
answers.
-/

namespace Bailiwick

/-- Calls of the store that may find it out of reach. -/
inductive Call where
  | zone | domain | host | transaction
  deriving DecidableEq, Repr

structure Surroundings where
  outage : Call → Option Fault
  delivery : Delivery

/-- The store is in reach and the queue takes every request. -/
def Surroundings.calm : Surroundings := ⟨fun _ => none, .accepted⟩

structure World where
  store : Store := .empty
  /-- Names of the hosts whose records are to be refreshed, the oldest request first. -/
  queue : List HostName := []
  activity : List String := []
  log : List Event := []

namespace World

def report (w : World) (events : List Event) : World := { w with log := w.log ++ events }

/-- Changes the store outside of any request. -/
def edit (w : World) (e : Store.Edit) : World := { w with store := w.store.edit e }

/-- Takes every request from the queue. -/
def drain (w : World) : World × List HostName := ({ w with queue := [] }, w.queue)

/-- The answer of a call, or the fault it meets. -/
def reach (surroundings : Surroundings) (call : Call) (answer : α) : Except Fault α :=
  match surroundings.outage call with
  | some fault => .error fault
  | none => .ok answer

/-- Carries out an operation. -/
def perform (surroundings : Surroundings) (w : World) : (op : Op) → World × op.Answer
  | .isManaged zone => (w, reach surroundings .zone (w.store.isManaged zone))
  | .findDomain name now => (w, reach surroundings .domain (w.store.activeDomain name now))
  | .findHost name now => (w, reach surroundings .host (w.store.activeHost name.text now))
  | .openTransaction => (w, reach surroundings .transaction ())
  | .loadHost attempt name now => (w, attempt.loadHost w.store name now)
  | .loadDomain attempt name now => (w, attempt.loadDomain w.store name now)
  | .commit attempt =>
    match attempt.commit? w.store with
    | some store =>
      let missed := (w.store.missingLinks attempt.writes).map fun (key, name) => Event.linkMissed key name
      ({ w with store }.report missed, true)
    | none => (w, false)
  | .discard _ => (w, ())
  | .enqueueRefresh name =>
    match surroundings.delivery with
    | .accepted => ({ w with queue := w.queue ++ [name] }.report [.refreshQueued name], .accepted)
    | delivery => (w, delivery)
  | .recordActivity activity =>
    ({ w with activity := w.activity ++ [activity] }.report [.activityRecorded activity], ())
  | .report event => (w.report [event], ())

end World

/-- Carries out work while nobody else is there. -/
def Work.run (surroundings : Surroundings) (w : World) : Work α → World × α
  | .done value => (w, value)
  | .step op next =>
    let (w, answer) := w.perform surroundings op
    (next answer).run surroundings w

theorem Work.run_bind (surroundings : Surroundings) (w : World) (p : Work α) (f : α → Work β) :
    (p.bind f).run surroundings w
      = (f (p.run surroundings w).2).run surroundings (p.run surroundings w).1 := by
  induction p generalizing w with
  | done value => rfl
  | step op next ih => exact ih _ _

end Bailiwick
