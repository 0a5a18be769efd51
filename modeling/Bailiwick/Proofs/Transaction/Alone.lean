import Bailiwick.Proofs.Alone
import Bailiwick.Proofs.Transaction.Validation

/-!
Transactions that nobody disturbs, one operation after the other. The first attempt is current when it is to
commit, so a transaction comes to the same value whether or not its writes are to last; one that is rolled back
leaves the world as it was and begins a single body.
-/

namespace Bailiwick

namespace Attempt

variable {a : Attempt} {s : Store}

theorem isCurrent_note (h : a.isCurrent s = true) (key : ReadKey) :
    (a.note key (s.version key)).isCurrent s = true := by
  rw [note]
  split
  · exact h
  · rw [isCurrent_iff] at h ⊢
    intro read hread
    rcases List.mem_append.1 hread with hold | hnew
    · exact h read hold
    · rw [List.mem_singleton.1 hnew]

theorem isCurrent_loadHost (h : a.isCurrent s = true) (name : HostName) (now : Instant) :
    (a.loadHost s name now).2.isCurrent s = true := by
  rw [loadHost]
  split
  · exact h
  · exact isCurrent_note h (.host name.text)

theorem reads_note_ne_nil (a : Attempt) (key : ReadKey) (version : Nat) : (a.note key version).reads ≠ [] := by
  obtain ⟨noted, hmem⟩ := a.exists_mem_reads_note key version
  exact List.ne_nil_of_mem hmem

theorem reads_loadHost_ne_nil (h : a.reads ≠ []) (s : Store) (name : HostName) (now : Instant) :
    (a.loadHost s name now).2.reads ≠ [] := by
  rw [loadHost]
  split
  · exact h
  · exact a.reads_note_ne_nil _ _

end Attempt

namespace Body

variable {α : Type} {a : Attempt} (surroundings : Surroundings) (w : World)

/-- An attempt that is made alone is current at its end. -/
theorem isCurrent_run (b : Body α) (h : a.isCurrent w.store = true) :
    ((b.run a).run surroundings w).2.2.isCurrent w.store = true := by
  induction b generalizing a with
  | done result => exact h
  | write write rest ih => exact ih (a := a.write write) h
  | loadHost name now next ih => exact ih _ (Attempt.isCurrent_loadHost h name now)
  | loadDomain name now next ih => exact ih _ (Attempt.isCurrent_note h (.domain name))

theorem keeps_run (b : Body α) (a : Attempt) : (b.run a).Keeps (fun op => op.spares = true) fun _ => True := by
  induction b generalizing a with
  | done result => trivial
  | write write rest ih => exact ih (a.write write)
  | loadHost name now next ih => exact ⟨rfl, fun answer => ih answer.1 answer.2⟩
  | loadDomain name now next ih => exact ⟨rfl, fun answer => ih answer.1 answer.2⟩

theorem begun_load {op : Op} {next : op.Answer → Work α} (hop : op.begins = a.reads.isEmpty) (h : a.reads ≠ []) :
    (Work.step op next).begun surroundings w
      = (next (w.perform surroundings op).2).begun surroundings (w.perform surroundings op).1 := by
  rw [Work.begun, Work.ops, List.countP_cons_of_neg]
  · rfl
  · rw [hop, List.isEmpty_iff]
    exact h

/-- An attempt that has read something begins no other body. -/
theorem begun_run_of_reads (b : Body α) (h : a.reads ≠ []) : (b.run a).begun surroundings w = 0 := by
  induction b generalizing a with
  | done result => rfl
  | write write rest ih => exact ih (a := a.write write) h
  | loadHost name now next ih =>
      rw [run, begun_load surroundings w rfl h]
      exact ih _ (Attempt.reads_loadHost_ne_nil h w.store name now)
  | loadDomain name now next ih =>
      rw [run, begun_load surroundings w rfl h]
      exact ih _ (a.reads_note_ne_nil _ _)

/-- A body that begins with the read of a host is begun once. -/
theorem begun_run_loadHost (name : HostName) (now : Instant) (next : Option Host → Body α) :
    ((Body.loadHost name now next).run .empty).begun surroundings w = 1 := by
  have hreads : (Attempt.empty.loadHost w.store name now).2.reads ≠ [] :=
    Attempt.empty.reads_note_ne_nil (.host name.text) (w.store.hostVersion name.text)
  have hrest := (next (Attempt.empty.loadHost w.store name now).1).begun_run_of_reads surroundings w hreads
  rw [Work.begun] at hrest
  rw [run, Work.begun, Work.ops, List.countP_cons_of_pos rfl]
  exact congrArg (· + 1) hrest

end Body

namespace Transaction

variable {α : Type} (surroundings : Surroundings) (w : World)

/-- The first of some attempts comes to what its body evaluates to, whether or not its writes are to last. -/
theorem run_attempts (mode : CommitMode) (budget : Nat) (body : Nat → Body α) (remaining number : Nat) :
    ((attempts mode budget body (remaining + 1) number).run surroundings w).2
      = ((body number).evaluate w.store []).1 := by
  obtain ⟨e, hrun, -⟩ := (body number).run_alone .empty surroundings w
  have hcurrent := (body number).isCurrent_run (a := .empty) surroundings w rfl
  rw [attempts]
  change (Work.run surroundings w (Work.bind _ _)).2 = _
  rw [Work.run_bind, hrun]
  rw [hrun] at hcurrent
  change _ = ((body number).evaluate w.store Attempt.empty.writes).1
  cases (body number).evaluate w.store Attempt.empty.writes with
  | mk result writes =>
      cases result with
      | error refusal => rfl
      | ok value =>
          cases mode with
          | rollBack => rfl
          | commit =>
              change (Work.run surroundings w (Work.bind _ _)).2 = _
              rw [Work.run_bind]
              change (Work.run surroundings _ (if (w.perform surroundings (.commit e)).2 then _ else _)).2 = _
              rw [(w.perform_commit_of_isCurrent surroundings hcurrent).1]
              rfl

/-- A transaction that nobody disturbs comes to what its first attempt evaluates to, whether or not its writes are to
last, unless the store is out of reach. -/
theorem run_transact (mode : CommitMode) (maxAttempts : Nat) (body : Nat → Body α) :
    ((transact mode maxAttempts body).run surroundings w).2
      = ((World.reach surroundings .transaction ()).mapError .fault).bind
          fun _ => ((body 1).evaluate w.store []).1 := by
  obtain ⟨rest, hbudget⟩ := Nat.exists_eq_succ_of_ne_zero (Nat.ne_of_gt (Nat.le_max_left 1 maxAttempts))
  rw [transact]
  change (Work.run surroundings w (Work.bind _ _)).2 = _
  rw [Work.run_bind]
  change (Work.run surroundings w
    (match World.reach surroundings .transaction () with | .error _ => _ | .ok _ => _)).2 = _
  rw [World.reach]
  cases surroundings.outage .transaction with
  | some fault => rfl
  | none =>
      rw [hbudget]
      exact run_attempts surroundings w mode _ body rest 1

/-- Whatever the answers, a transaction that is rolled back spares the world. -/
theorem keeps_transact_rollBack (maxAttempts : Nat) (body : Nat → Body α) :
    (transact .rollBack maxAttempts body).Keeps (fun op => op.spares = true) fun _ => True := by
  obtain ⟨rest, hbudget⟩ := Nat.exists_eq_succ_of_ne_zero (Nat.ne_of_gt (Nat.le_max_left 1 maxAttempts))
  refine ⟨rfl, fun answer => ?_⟩
  cases answer with
  | error fault => trivial
  | ok _ =>
      change (attempts .rollBack _ body _ 1).Keeps _ _
      rw [hbudget, attempts]
      refine ((body 1).keeps_run .empty).bind ?_
      rintro ⟨result, e⟩ -
      cases result with
      | error refusal => trivial
      | ok value => exact ⟨rfl, fun _ => ⟨rfl, fun _ => trivial⟩⟩

/-- A transaction that is rolled back begins its body once, unless the store is out of reach. -/
theorem begun_transact_rollBack (maxAttempts : Nat) {body : Nat → Body α} {name : HostName} {now : Instant}
    {next : Option Host → Body α} (hbody : body 1 = .loadHost name now next) :
    (transact .rollBack maxAttempts body).begun surroundings w
      = match surroundings.outage .transaction with | some _ => 0 | none => 1 := by
  obtain ⟨rest, hbudget⟩ := Nat.exists_eq_succ_of_ne_zero (Nat.ne_of_gt (Nat.le_max_left 1 maxAttempts))
  rw [transact, Work.begun_bind]
  change 0 + (Work.begun surroundings w
    (match World.reach surroundings .transaction () with | .error _ => _ | .ok _ => _)) = _
  rw [World.reach, Nat.zero_add]
  cases surroundings.outage .transaction with
  | some fault => rfl
  | none =>
      change (attempts .rollBack _ body _ 1).begun surroundings w = 1
      rw [hbudget, attempts, Work.begun_bind, hbody, Body.begun_run_loadHost]
      split
      next result e _ => cases result <;> rfl

/-- What one transaction has come to, and how many bodies it has begun, against another transaction of which it is the
rehearsal: both come to what is decided in the one body that is begun, unless the store is out of reach. -/
structure Rehearses {β : Type} (f : α → β) (decided : Except Refusal α) (begun : Nat) (dry : Except Refusal α)
    (real : Except Refusal β) : Prop where
  value : real = dry.map f
  begun_cases : begun = 1 ∧ dry = decided ∨ begun = 0 ∧ ∃ fault, dry = .error (.fault fault)

/-- A transaction that is rolled back is the rehearsal of one that commits, where the bodies of both decide alike on
every store. -/
theorem foretells_transact {β : Type} {f : α → β} {body : Nat → Body α} {body' : Nat → Body β} {name : HostName}
    {now : Instant} {next : Option Host → Body α} (hbody : body 1 = .loadHost name now next)
    (hsame : ∀ s, ((body' 1).evaluate s []).1 = ((body 1).evaluate s []).1.map f) (maxAttempts : Nat) :
    Work.Foretells (Rehearses f ((body 1).evaluate w.store []).1) surroundings w (transact .rollBack maxAttempts body)
      (transact .commit maxAttempts body') := by
  refine ⟨(keeps_transact_rollBack maxAttempts body).alike surroundings w, ?_⟩
  rw [run_transact, run_transact, begun_transact_rollBack surroundings w maxAttempts hbody, hsame, World.reach]
  cases surroundings.outage .transaction with
  | some fault => exact ⟨rfl, .inr ⟨rfl, fault, rfl⟩⟩
  | none => exact ⟨rfl, .inl ⟨rfl, rfl⟩⟩

end Transaction

end Bailiwick
