import Bailiwick.Proofs.EditsAndTurns
import Bailiwick.Proofs.Transaction.Alone
import Bailiwick.Proofs.Transaction.Serializable

/-!
The trials of a transaction. Each attempt is taken down with the deeds that were done while its body ran, what the
body came to, and the commit, if one was tried. An attempt is out of date at its commit if and only if it was
overtaken: some write that raises the version of a key landed after the attempt had first read that key from the
store. What becomes of the attempts decides the result of the transaction and what it writes.
-/

namespace Bailiwick

namespace Op

/-- The key that an operation of an attempt reads from the store. A host among the attempt's own writes is not
read from there. -/
def shared? : Op → Option ReadKey
  | .loadHost a name now => if (a.ownHost? name now).isSome then none else some (.host name.text)
  | .loadDomain _ name _ => some (.domain name)
  | _ => none

/-- Whether an operation belongs to the body of a transaction or to its commit. -/
def engages : Op → Bool
  | .loadHost _ _ _ => true
  | .loadDomain _ _ _ => true
  | .commit _ => true
  | _ => false

theorem shared?_loadHost_of_own {a : Attempt} {name : HostName} {now : Instant} {host : Host}
    (h : a.ownHost? name now = some host) : (Op.loadHost a name now).shared? = none := by
  simp [shared?, h]

theorem shared?_loadHost_of_none {a : Attempt} {name : HostName} {now : Instant} (h : a.ownHost? name now = none) :
    (Op.loadHost a name now).shared? = some (.host name.text) := by
  simp [shared?, h]

end Op

/-- A turn that reads from the store writes nothing to it. -/
theorem Turn.writes_of_shared? {turn : Turn} {key : ReadKey} (h : turn.op.shared? = some key) : turn.writes = [] := by
  obtain ⟨world, surroundings, op⟩ := turn
  cases op with
  | commit a => cases h
  | _ => rfl

/-- A turn that is no commit writes nothing. -/
theorem Turn.writes_of_not_engages {turn : Turn} (h : turn.op.engages = false) : turn.writes = [] := by
  obtain ⟨world, surroundings, op⟩ := turn
  cases op with
  | commit a => cases h
  | _ => rfl

namespace Deed

/-- A request did nothing among some deeds that belongs to the body or the commit of a transaction. -/
def Idle (number : Nat) (deeds : List Deed) : Prop :=
  ∀ turn, Deed.turn number turn ∈ deeds → turn.op.engages = false

theorem Asides.idle {number : Nat} {deeds : List Deed} (h : Asides number deeds) : Idle number deeds :=
  fun turn hturn => absurd hturn (h turn)

theorem Idle.append {number : Nat} {before rest : List Deed} (hbefore : Idle number before)
    (hrest : Idle number rest) : Idle number (before ++ rest) :=
  fun turn hturn => (List.mem_append.1 hturn).elim (hbefore turn) (hrest turn)

theorem Idle.cons {number : Nat} {turn : Turn} {rest : List Deed} (hturn : turn.op.engages = false)
    (hrest : Idle number rest) : Idle number (.turn number turn :: rest) := by
  intro other hother
  rcases List.mem_cons.1 hother with heq | hother
  · cases heq
    exact hturn
  · exact hrest other hother

/-- What a request writes to the store by its turns among some deeds. -/
def writesOf (number : Nat) (deeds : List Deed) : List Store.Write := (turnsOf number deeds).flatMap Turn.writes

theorem writesOf_append (number : Nat) (before rest : List Deed) :
    writesOf number (before ++ rest) = writesOf number before ++ writesOf number rest := by
  rw [writesOf, turnsOf_append, List.flatMap_append]
  rfl

theorem Idle.writesOf_eq_nil {number : Nat} {deeds : List Deed} (h : Idle number deeds) :
    writesOf number deeds = [] :=
  List.flatMap_eq_nil_iff.2 fun t ht => Turn.writes_of_not_engages (h t (mem_turnsOf.1 ht))

/-- A request reads a key from the store for the first time, with what was done before and after. -/
structure FirstRead (number : Nat) (key : ReadKey) (deeds before : List Deed) (read : Turn) (after : List Deed) :
    Prop where
  deeds_eq : deeds = before ++ .turn number read :: after
  shared : read.op.shared? = some key
  first : ∀ earlier, Deed.turn number earlier ∈ before → earlier.op.shared? ≠ some key

/-- A write that raises the version of a key landed after a request had first read that key from the store. -/
def Overtaken (number : Nat) (deeds : List Deed) : Prop :=
  ∃ key before read after, FirstRead number key deeds before read after ∧ ∃ deed ∈ after, key ∈ deed.bumps

/-- A key had a version when a request read it from the store for the first time. -/
def ReadAt (number : Nat) (deeds : List Deed) (key : ReadKey) (version : Nat) : Prop :=
  ∃ before read after, FirstRead number key deeds before read after ∧ read.world.store.version key = version

theorem Asides.not_readAt {number : Nat} {deeds : List Deed} (h : Asides number deeds) (key : ReadKey)
    (version : Nat) : ¬ ReadAt number deeds key version := by
  rintro ⟨before, read, after, ⟨rfl, -, -⟩, -⟩
  exact h read (List.mem_append_right before List.mem_cons_self)

/-- The next turn of a request is its first read of a key, or leaves the first read to come. -/
theorem readAt_iff {number : Nat} {asides rest : List Deed} {turn : Turn} (hasides : Asides number asides)
    {key : ReadKey} {version : Nat} :
    ReadAt number (asides ++ .turn number turn :: rest) key version ↔
      (turn.op.shared? = some key ∧ turn.world.store.version key = version) ∨
        (turn.op.shared? ≠ some key ∧ ReadAt number rest key version) := by
  constructor
  · rintro ⟨before, read, after, ⟨hdeeds, hshared, hfirst⟩, hversion⟩
    rcases hasides.split_unique hdeeds with ⟨-, rfl, -⟩ | ⟨between, rfl, rfl⟩
    · exact .inl ⟨hshared, hversion⟩
    · refine .inr ⟨hfirst turn (List.mem_append_right _ List.mem_cons_self), between, read, after,
        ⟨rfl, hshared, fun earlier hearlier => ?_⟩, hversion⟩
      exact hfirst earlier (List.mem_append_right _ (List.mem_cons_of_mem _ hearlier))
  · rintro (⟨hshared, hversion⟩ | ⟨hother, before, read, after, ⟨rfl, hshared, hfirst⟩, hversion⟩)
    · exact ⟨asides, turn, rest, ⟨rfl, hshared, fun earlier hearlier => absurd hearlier (hasides earlier)⟩, hversion⟩
    · refine ⟨asides ++ .turn number turn :: before, read, after, ⟨?_, hshared, ?_⟩, hversion⟩
      · simp only [List.append_assoc, List.cons_append]
      · intro earlier hearlier
        rcases List.mem_append.1 hearlier with haside | hearlier
        · exact absurd haside (hasides earlier)
        · rcases List.mem_cons.1 hearlier with heq | hearlier
          · cases heq
            exact hother
          · exact hfirst earlier hearlier

end Deed

theorem Attempt.mem_reads_note {a : Attempt} {key : ReadKey} {version : Nat} {entry : ReadKey × Nat} :
    entry ∈ (a.note key version).reads ↔
      entry ∈ a.reads ∨ (entry = (key, version) ∧ ∀ noted ∈ a.reads, noted.1 ≠ key) := by
  rw [note]
  split
  · next h =>
      obtain ⟨noted, hmem, hkey⟩ := List.any_eq_true.1 h
      simp only [decide_eq_true_eq] at hkey
      exact ⟨.inl, fun h => h.resolve_right fun hnew => hnew.2 noted hmem hkey⟩
  · next h =>
      have hfresh : ∀ noted ∈ a.reads, noted.1 ≠ key := by
        intro noted hmem hkey
        exact h (List.any_eq_true.2 ⟨noted, hmem, decide_eq_true hkey⟩)
      simp only [List.mem_append, List.mem_singleton]
      exact or_congr_right (and_iff_left hfresh).symm

/-- Every read of a key that is noted already keeps the version of the first. -/
theorem Attempt.forall_reads_note_ne {a : Attempt} {key other : ReadKey} {version : Nat} :
    (∀ noted ∈ (a.note key version).reads, noted.1 ≠ other) ↔ (∀ noted ∈ a.reads, noted.1 ≠ other) ∧ key ≠ other := by
  constructor
  · intro h
    obtain ⟨noted, hmem⟩ := a.exists_mem_reads_note key version
    exact ⟨fun read hread => h read (a.subset_reads_note key version hread), h _ hmem⟩
  · rintro ⟨hreads, hkey⟩ noted hmem
    rcases mem_reads_note.1 hmem with hold | ⟨rfl, -⟩
    · exact hreads noted hold
    · exact hkey

namespace Body

open Deed

variable {α : Type} {number : Nat}

/-- What an attempt has noted beyond what it had noted before: the keys it read from the store among some deeds, each
with its version at the first read. -/
def Notes (number : Nat) (a e : Attempt) (deeds : List Deed) : Prop :=
  ∀ entry : ReadKey × Nat, entry ∈ e.reads ↔
    entry ∈ a.reads ∨ ((∀ noted ∈ a.reads, noted.1 ≠ entry.1) ∧ ReadAt number deeds entry.1 entry.2)

theorem Notes.of_asides {a : Attempt} {deeds : List Deed} (h : Asides number deeds) : Notes number a a deeds :=
  fun _ => ⟨.inl, fun hentry => hentry.resolve_right fun hread => h.not_readAt _ _ hread.2⟩

/-- A turn that reads a key from the store. -/
theorem Notes.read {a e : Attempt} {asides rest : List Deed} {turn : Turn} {key : ReadKey}
    (hasides : Asides number asides) (hshared : turn.op.shared? = some key)
    (h : Notes number (a.note key (turn.world.store.version key)) e rest) :
    Notes number a e (asides ++ .turn number turn :: rest) := by
  intro entry
  rw [h entry, Attempt.mem_reads_note, Attempt.forall_reads_note_ne, readAt_iff hasides, hshared, or_assoc]
  refine or_congr_right ?_
  obtain ⟨k, version⟩ := entry
  by_cases hk : key = k
  · subst hk
    simp only [Prod.mk.injEq, true_and, ne_eq, not_true, and_false, false_and, or_false, and_comm (a := version = _)]
    exact and_congr_right fun _ => eq_comm
  · have hk' : k ≠ key := Ne.symm hk
    simp [hk, hk']

/-- A turn that reads nothing from the store. -/
theorem Notes.skip {a e : Attempt} {asides rest : List Deed} {turn : Turn} (hasides : Asides number asides)
    (hshared : turn.op.shared? = none) (h : Notes number a e rest) :
    Notes number a e (asides ++ .turn number turn :: rest) := by
  intro entry
  rw [h entry, readAt_iff hasides, hshared]
  simp

/-- An attempt notes what its body reads from the store, each key with its version at the first read. -/
theorem notes_of_takes {b : Body α} {a e : Attempt} {deeds : List Deed} {result : Except Refusal α}
    (h : (b.run a).Takes number deeds (.done (result, e))) : Notes number a e deeds := by
  induction b generalizing a deeds with
  | done reached =>
      obtain ⟨hdone, hasides⟩ := h.of_done
      cases hdone
      exact .of_asides hasides
  | write write rest ih => exact ih (a := a.write write) h
  | loadHost name now next ih =>
      obtain ⟨asides, w, surroundings, rest, rfl, hasides, hrest⟩ := h.exists_turn
      have hnotes := ih _ hrest
      simp only [World.perform, Attempt.loadHost] at hnotes
      cases hown : a.ownHost? name now with
      | some host =>
          rw [hown] at hnotes
          exact .skip hasides (Op.shared?_loadHost_of_own hown) hnotes
      | none =>
          rw [hown] at hnotes
          exact .read hasides (Op.shared?_loadHost_of_none hown) hnotes
  | loadDomain name now next ih =>
      obtain ⟨asides, w, surroundings, rest, rfl, hasides, hrest⟩ := h.exists_turn
      exact .read hasides rfl (ih _ hrest)

/-- An attempt is out of date if and only if it was overtaken. -/
theorem isCurrent_eq_false_iff {b : Body α} {e : Attempt} {deeds : List Deed} {result : Except Refusal α} {w : World}
    (h : (b.run .empty).Takes number deeds (.done (result, e))) (hw : Unbroken w deeds) :
    e.isCurrent (w.through deeds).store = false ↔ Overtaken number deeds := by
  -- A version counts its bumps, and the read itself raises none.
  have hkept {before after : List Deed} {read : Turn} {key : ReadKey}
      (hread : FirstRead number key deeds before read after) :
      (w.through deeds).store.version key = read.world.store.version key ↔ ∀ deed ∈ after, key ∉ deed.bumps := by
    obtain ⟨rfl, hshared, -⟩ := hread
    obtain ⟨-, hrest⟩ := unbroken_append.1 hw
    have hnone : (Deed.turn number read).bumps = [] := by rw [bumps, Turn.writes_of_shared? hshared]; rfl
    rw [World.through_append, hw.world_eq, hrest.version_through_eq_iff, List.forall_mem_cons, hnone]
    simp
  have hcurrent : e.isCurrent (w.through deeds).store = true ↔ ¬ Overtaken number deeds := by
    rw [Attempt.isCurrent_iff]
    constructor
    · rintro hreads ⟨key, before, read, after, hread, deed, hdeed, hkey⟩
      have hentry := (notes_of_takes h (key, read.world.store.version key)).2
        (.inr ⟨fun _ hnothing => absurd hnothing List.not_mem_nil, before, read, after, hread, rfl⟩)
      exact (hkept hread).1 (hreads _ hentry) deed hdeed hkey
    · rintro hnever ⟨key, version⟩ hentry
      rcases (notes_of_takes h _).1 hentry with hnothing | ⟨-, before, read, after, hread, hversion⟩
      · cases hnothing
      · refine ((hkept hread).2 fun deed hdeed hkey => hnever ?_).trans hversion
        exact ⟨key, before, read, after, hread, deed, hdeed, hkey⟩
  rw [Bool.eq_false_iff, Ne, hcurrent, Classical.not_not]

end Body

namespace Transaction

open Deed

variable {α : Type} {number : Nat} {body : Nat → Body α}

/-- One attempt at a transaction of the request with a number: the deeds while its body ran, what the body came to,
the commit if one was tried, and what was done after it until the next attempt. -/
structure Trial (number : Nat) (body : Nat → Body α) where
  /-- The number of the attempt, from 1 on. -/
  ordinal : Nat
  start : World
  running : List Deed
  result : Except Refusal α
  attempt : Attempt
  runs : ((body ordinal).run .empty).Takes number running (.done (result, attempt))
  unbroken : Unbroken start running
  /-- The surroundings in which a commit of the attempt was tried, if it was. -/
  put? : Option Surroundings
  closing : List Deed
  idle : Idle number closing

namespace Trial

/-- The turn by which a commit was tried. -/
def commit? (trial : Trial number body) : Option Turn :=
  trial.put?.map fun surroundings => ⟨trial.start.through trial.running, surroundings, .commit trial.attempt⟩

/-- What was done from the beginning of an attempt to the next. -/
def deeds (trial : Trial number body) : List Deed :=
  trial.running ++ trial.commit?.toList.map (.turn number) ++ trial.closing

/-- A commit was tried in vain. -/
def Conflicts (trial : Trial number body) : Prop := ∃ turn, trial.commit? = some turn ∧ turn.commits = false

/-- A commit was tried, and the attempt lasts. -/
def Commits (trial : Trial number body) : Prop := ∃ turn, trial.commit? = some turn ∧ turn.commits = true

theorem conflicts_iff (trial : Trial number body) :
    trial.Conflicts ↔ trial.put?.isSome ∧ Overtaken number trial.running := by
  rw [← Body.isCurrent_eq_false_iff trial.runs trial.unbroken]
  cases hput : trial.put? with
  | none => simp [Conflicts, commit?, hput]
  | some surroundings => simp [Conflicts, commit?, hput, Turn.commits]

theorem commits_or_conflicts {trial : Trial number body} (h : trial.put?.isSome) : trial.Commits ∨ trial.Conflicts := by
  obtain ⟨surroundings, hput⟩ := Option.isSome_iff_exists.1 h
  have hcommit : trial.commit? = some ⟨trial.start.through trial.running, surroundings, .commit trial.attempt⟩ := by
    rw [commit?, hput, Option.map_some]
  cases hcommits : Turn.commits ⟨trial.start.through trial.running, surroundings, .commit trial.attempt⟩ with
  | true => exact .inl ⟨_, hcommit, hcommits⟩
  | false => exact .inr ⟨_, hcommit, hcommits⟩

/-- No body commits. -/
theorem commits_eq_false_of_mem_running (trial : Trial number body) {turn : Turn}
    (hturn : Deed.turn number turn ∈ trial.running) : turn.commits = false := by
  have hop := (trial.runs.keeps ((body trial.ordinal).keeps_run .empty)).1 turn hturn
  obtain ⟨world, surroundings, op⟩ := turn
  cases op with
  | commit a => cases hop
  | _ => rfl

/-- What a trial writes to the store. -/
def writes (trial : Trial number body) : List Store.Write := writesOf number trial.deeds

/-- A trial writes by its commit alone. -/
theorem writes_eq (trial : Trial number body) : trial.writes = trial.commit?.toList.flatMap Turn.writes := by
  have hrunning : writesOf number trial.running = [] := List.flatMap_eq_nil_iff.2 fun turn hturn =>
    Turn.writes_of_not_commits (trial.commits_eq_false_of_mem_running (mem_turnsOf.1 hturn))
  have hcommit : turnsOf number (trial.commit?.toList.map (.turn number)) = trial.commit?.toList := by
    cases trial.commit? with
    | none => rfl
    | some turn => simp [turnsOf]
  rw [writes, deeds, writesOf_append, writesOf_append, hrunning, trial.idle.writesOf_eq_nil, writesOf, hcommit,
    List.nil_append, List.append_nil]

theorem Commits.writes_eq {trial : Trial number body} (h : trial.Commits) : trial.writes = trial.attempt.writes := by
  obtain ⟨turn, hcommit, hcommits⟩ := h
  obtain ⟨surroundings, -, rfl⟩ := Option.map_eq_some_iff.1 hcommit
  rw [Trial.writes_eq, hcommit, Option.toList_some, List.flatMap_singleton]
  exact Turn.writes_of_isCurrent rfl hcommits

theorem writes_of_not_commits {trial : Trial number body} (h : ¬ trial.Commits) : trial.writes = [] := by
  rw [Trial.writes_eq]
  cases hcommit : trial.commit? with
  | none => rfl
  | some turn =>
      rw [Option.toList_some, List.flatMap_singleton]
      refine Turn.writes_of_not_commits (Bool.eq_false_iff.2 fun hcommits => h ⟨turn, hcommit, hcommits⟩)

end Trial

end Transaction

end Bailiwick
