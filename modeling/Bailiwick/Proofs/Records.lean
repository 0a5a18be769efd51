import Bailiwick.Proofs.RunStores
import Bailiwick.Proofs.Store.Keys

/-!
What a run adds to the records of a registry. History and billing, queue and activity are what they were at its
start and, behind that in order, what its turns have added; edits add nothing to them. The host rows of a store are
those of its start with those of the edits and commits.
-/

namespace Bailiwick

/-- A row behind the rows under a key is one row more in the table. -/
theorem Table.flatten_rows_alter {ρ : Type} (t : Table (List ρ)) (key : String) (row : ρ) :
    ((t.alter key fun rows => rows.getD [] ++ [row]).rows.flatten).Perm (t.rows.flatten ++ [row]) := by
  obtain ⟨entries⟩ := t
  simp only [alter, rows]
  induction entries with
  | nil => exact List.Perm.refl _
  | cons entry rest ih =>
      obtain ⟨k, first⟩ := entry
      rw [alterEntries]
      split
      · simp only [Option.getD_some, List.map_cons, List.flatten_cons, List.append_assoc]
        exact List.Perm.append_left first List.perm_append_comm
      · simp only [List.map_cons, List.flatten_cons, List.append_assoc]
        exact List.Perm.append_left first ih

namespace Store

/-- All host rows of a store, under whatever name they stand. -/
def hostRows (s : Store) : List Host := s.hosts.rows.flatten

/-- The host row that an edit puts. -/
def Edit.hosts : Edit → List Host
  | .putHost host => [host]
  | _ => []

/-- The host row that a write stores. -/
def Write.hosts : Write → List Host
  | .insertHost host => [host]
  | _ => []

def Write.entries : Write → List HistoryEntry
  | .appendHistory entry => [entry]
  | _ => []

def Write.charges : Write → List BillingEvent
  | .insertBilling event => [event]
  | _ => []

theorem hostRows_edit (s : Store) (e : Edit) : (s.edit e).hostRows.Perm (s.hostRows ++ e.hosts) := by
  cases e with
  | putHost host => exact Table.flatten_rows_alter s.hosts host.name.text host
  | addZone zone => exact List.Perm.of_eq (List.append_nil _).symm
  | putDomain domain => exact List.Perm.of_eq (List.append_nil _).symm

theorem hostRows_apply (s : Store) (write : Write) : (s.apply write).hostRows.Perm (s.hostRows ++ write.hosts) := by
  cases write with
  | insertHost host => exact Table.flatten_rows_alter s.hosts host.name.text host
  | _ => exact List.Perm.of_eq (List.append_nil _).symm

theorem hostRows_applyAll (s : Store) (writes : List Write) :
    (s.applyAll writes).hostRows.Perm (s.hostRows ++ writes.flatMap Write.hosts) := by
  induction writes generalizing s with
  | nil => exact List.Perm.of_eq (List.append_nil _).symm
  | cons write rest ih =>
      rw [List.flatMap_cons, ← List.append_assoc]
      exact (ih (s.apply write)).trans ((s.hostRows_apply write).append_right _)

theorem history_edit (s : Store) (e : Edit) : (s.edit e).history = s.history := by
  cases e <;> rfl

theorem billing_edit (s : Store) (e : Edit) : (s.edit e).billing = s.billing := by
  cases e <;> rfl

theorem history_apply (s : Store) (write : Write) : (s.apply write).history = s.history ++ write.entries := by
  cases write with
  | appendHistory entry => rfl
  | _ => exact (List.append_nil _).symm

theorem billing_apply (s : Store) (write : Write) : (s.apply write).billing = s.billing ++ write.charges := by
  cases write with
  | insertBilling event => rfl
  | _ => exact (List.append_nil _).symm

/-- What every write appends to a record of a store, writes in a row append in their order. -/
theorem record_applyAll {β : Type} {record : Store → List β} {added : Write → List β}
    (hwrite : ∀ s write, record (s.apply write) = record s ++ added write) (s : Store) (writes : List Write) :
    record (s.applyAll writes) = record s ++ writes.flatMap added := by
  induction writes generalizing s with
  | nil => exact (List.append_nil _).symm
  | cons write rest ih =>
      rw [List.flatMap_cons, ← List.append_assoc, ← hwrite]
      exact ih (s.apply write)

end Store

namespace Turn

def entries (t : Turn) : List HistoryEntry := t.writes.flatMap Store.Write.entries

def charges (t : Turn) : List BillingEvent := t.writes.flatMap Store.Write.charges

/-- The names that a turn calls the queue with. -/
def refreshes (t : Turn) : List HostName :=
  match t.op with
  | .enqueueRefresh name => [name]
  | _ => []

/-- The names that a turn puts into the queue. -/
def queued (t : Turn) : List HostName :=
  match t.surroundings.delivery with
  | .accepted => t.refreshes
  | _ => []

def records (t : Turn) : List String :=
  match t.op with
  | .recordActivity activity => [activity]
  | _ => []

/-- The names of the subordinate hosts that a turn stores. -/
def subordinates (t : Turn) : List HostName := (t.hosts.filter Host.isSubordinate).map Host.name

theorem subordinates_of_not_commits {t : Turn} (h : t.commits = false) : t.subordinates = [] := by
  rw [subordinates, hosts, writes_of_not_commits h]
  rfl

theorem refreshes_of_isQuiet {t : Turn} (h : t.isQuiet = true) : t.refreshes = [] := by
  obtain ⟨world, surroundings, op⟩ := t
  cases op with
  | enqueueRefresh name => cases h
  | _ => rfl

theorem records_of_isQuiet {t : Turn} (h : t.isQuiet = true) : t.records = [] := by
  obtain ⟨world, surroundings, op⟩ := t
  cases op with
  | recordActivity activity => cases h
  | _ => rfl

/-- No operation reads the queue, and a call that the queue accepts puts its name behind those that wait. -/
theorem after_withQueue (t : Turn) (queue : List HostName) :
    ({ t.world with queue } : World).perform t.surroundings t.op
      = ({ t.after with queue := queue ++ t.queued }, (t.world.perform t.surroundings t.op).2) := by
  obtain ⟨world, surroundings, op⟩ := t
  have hnone (h : Turn.refreshes ⟨world, surroundings, op⟩ = []) :
      queue ++ Turn.queued ⟨world, surroundings, op⟩ = queue := by
    rw [queued, h]
    split <;> exact List.append_nil queue
  cases op with
  | enqueueRefresh name =>
      obtain ⟨outage, delivery⟩ := surroundings
      cases delivery with
      | accepted => rfl
      | rejected cause => rw [queued, List.append_nil]; rfl
      | late => rw [queued, List.append_nil]; rfl
  | commit a =>
      rw [hnone rfl]
      simp only [World.perform, after]
      cases a.commit? world.store <;> rfl
  | _ => rw [hnone rfl]; rfl

theorem queue_after (t : Turn) : t.after.queue = t.world.queue ++ t.queued :=
  congrArg (fun left => left.1.queue) (t.after_withQueue t.world.queue)

theorem activity_after (t : Turn) : t.after.activity = t.world.activity ++ t.records := by
  obtain ⟨world, surroundings, op⟩ := t
  cases op with
  | enqueueRefresh name =>
      simp only [after, World.perform]
      split <;> exact (List.append_nil _).symm
  | commit a =>
      simp only [after, World.perform]
      split <;> exact (List.append_nil _).symm
  | recordActivity activity => rfl
  | _ => exact (List.append_nil _).symm

/-- What only commits add, the commits among some steps add. -/
theorem flatMap_commits {β : Type} {added : Turn → List β} (hnone : ∀ turn, turn.commits = false → added turn = [])
    (steps : List (Nat × Turn)) :
    ((steps.filter fun step => step.2.commits).flatMap fun step => added step.2)
      = steps.flatMap fun step => added step.2 := by
  induction steps with
  | nil => rfl
  | cons step rest ih =>
      rw [List.flatMap_cons, List.filter_cons, ← ih]
      cases hcommits : step.2.commits with
      | true => rw [if_pos rfl, List.flatMap_cons]
      | false => rw [if_neg Bool.false_ne_true, hnone step.2 hcommits, List.nil_append]

theorem hosts_eq_flatMap (t : Turn) : t.hosts = t.writes.flatMap Store.Write.hosts := by
  rw [hosts]
  induction t.writes with
  | nil => rfl
  | cons write rest ih =>
      rw [List.flatMap_cons, ← ih]
      cases write <;> rfl

end Turn

namespace Registry

variable {α : Type}

/-- A record that edits leave alone is, after a run, what the turns of the run have appended to it. -/
theorem record_play {β : Type} (record : World → List β) {added : Turn → List β}
    (hedit : ∀ w e, record (World.edit w e) = record w)
    (hturn : ∀ turn : Turn, record turn.after = record turn.world ++ added turn) (r : Registry α)
    (moves : List (Move α)) :
    record (r.play moves).world = record r.world ++ (r.turns moves).flatMap fun step => added step.2 := by
  induction moves generalizing r with
  | nil => exact (List.append_nil _).symm
  | cons m moves ih =>
      rw [turns, List.flatMap_append, ← List.append_assoc]
      refine (ih (r.move m)).trans (congrArg (· ++ _) ?_)
      cases m with
      | edit e => exact (hedit _ e).trans (List.append_nil _).symm
      | submit work => exact (List.append_nil _).symm
      | turn k surroundings =>
          rcases r.turn?_cases k surroundings with ⟨hstay, hidle⟩ | ⟨op, next, hk⟩
          · rw [hstay, hidle]
            exact (List.append_nil _).symm
          · have hturn' : r.turn? (.turn k surroundings) = some (k, ⟨r.world, surroundings, op⟩) := by
              simp only [turn?, hk]
            rw [move_turn hk, hturn', Option.toList_some, List.flatMap_singleton]
            exact hturn ⟨r.world, surroundings, op⟩

theorem history_play (r : Registry α) (moves : List (Move α)) :
    (r.play moves).world.store.history
      = r.world.store.history ++ (r.commits moves).flatMap fun step => step.2.entries := by
  rw [commits, Turn.flatMap_commits fun turn hcommits => by rw [Turn.entries, Turn.writes_of_not_commits hcommits]; rfl]
  refine record_play (fun w => w.store.history) (fun w e => w.store.history_edit e) (fun turn => ?_) r moves
  rw [turn.store_after, Store.record_applyAll Store.history_apply]
  rfl

theorem billing_play (r : Registry α) (moves : List (Move α)) :
    (r.play moves).world.store.billing
      = r.world.store.billing ++ (r.commits moves).flatMap fun step => step.2.charges := by
  rw [commits, Turn.flatMap_commits fun turn hcommits => by rw [Turn.charges, Turn.writes_of_not_commits hcommits]; rfl]
  refine record_play (fun w => w.store.billing) (fun w e => w.store.billing_edit e) (fun turn => ?_) r moves
  rw [turn.store_after, Store.record_applyAll Store.billing_apply]
  rfl

theorem queue_play (r : Registry α) (moves : List (Move α)) :
    (r.play moves).world.queue = r.world.queue ++ (r.turns moves).flatMap fun step => step.2.queued :=
  record_play World.queue (fun _ _ => rfl) Turn.queue_after r moves

theorem activity_play (r : Registry α) (moves : List (Move α)) :
    (r.play moves).world.activity = r.world.activity ++ (r.turns moves).flatMap fun step => step.2.records :=
  record_play World.activity (fun _ _ => rfl) Turn.activity_after r moves

/-- The host rows after a run are those of its start, those put by its edits and those stored by its commits. -/
theorem hostRows_play (r : Registry α) (moves : List (Move α)) :
    (r.play moves).world.store.hostRows.Perm
      (r.world.store.hostRows ++ ((r.edits moves).flatMap (·.2.hosts) ++ (r.commits moves).flatMap (·.2.hosts))) := by
  induction moves generalizing r with
  | nil => exact List.Perm.of_eq (List.append_nil _).symm
  | cons m moves ih =>
      refine (ih (r.move m)).trans ?_
      rw [commits_cons, List.flatMap_append]
      cases m with
      | edit e =>
          rw [edits, List.flatMap_cons, List.append_assoc, ← List.append_assoc r.world.store.hostRows]
          exact (r.world.store.hostRows_edit e).append_right _
      | submit work => exact List.Perm.refl _
      | turn k surroundings =>
          rcases r.commit?_cases k surroundings with ⟨hnone, hstay⟩ | ⟨turn, hcommit, hmet, hleft⟩
          · rw [hnone, hstay]
            exact List.Perm.refl _
          · rw [hcommit, ← hleft, turn.store_after, hmet, Option.toList_some, List.flatMap_singleton,
              turn.hosts_eq_flatMap]
            refine ((r.world.store.hostRows_applyAll turn.writes).append_right _).trans ?_
            rw [List.append_assoc]
            exact (List.perm_append_comm_assoc _ _ _).append_left _

end Registry

end Bailiwick
