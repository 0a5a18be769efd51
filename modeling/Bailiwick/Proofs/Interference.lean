import Bailiwick.Proofs.Store.Growth

/-!
Work with interference. Between two turns of a piece of work its company, whoever else there is, may change the world.
`Work.Ensures` says what holds at the end whatever the others do, of those turns of the work that had an effect, the
world it leaves and its value; it is proved along the tree of operations, and holds in particular of a run without
company. Turns that only read or report are quiet and do not count.
-/

namespace Bailiwick

/-- Worlds that differ at most in what was reported. -/
structure World.Alike (v w : World) : Prop where
  store : w.store = v.store
  queue : w.queue = v.queue
  activity : w.activity = v.activity

theorem World.Alike.refl (w : World) : w.Alike w := ⟨rfl, rfl, rfl⟩

namespace World

variable (surroundings : Surroundings) (w : World) {a : Attempt}

theorem perform_commit_of_isCurrent (h : a.isCurrent w.store = true) :
    (w.perform surroundings (.commit a)).2 = true ∧
      (w.perform surroundings (.commit a)).1.store = w.store.applyAll a.writes ∧
      (w.perform surroundings (.commit a)).1.queue = w.queue ∧
      (w.perform surroundings (.commit a)).1.activity = w.activity := by
  have hcommit : a.commit? w.store = some (w.store.applyAll a.writes) := by rw [Attempt.commit?, if_pos h]
  simp only [perform, hcommit]
  exact ⟨trivial, rfl, rfl, rfl⟩

theorem perform_commit_of_not_isCurrent (h : a.isCurrent w.store = false) :
    w.perform surroundings (.commit a) = (w, false) := by
  have hcommit : a.commit? w.store = none := by simp [Attempt.commit?, h]
  simp only [perform, hcommit]

/-- Every operation leaves a later store. -/
theorem later_perform (op : Op) : w.store.Later (w.perform surroundings op).1.store := by
  cases op with
  | commit a =>
      cases hcurrent : a.isCurrent w.store with
      | true =>
          rw [(w.perform_commit_of_isCurrent surroundings hcurrent).2.1]
          exact w.store.later_applyAll a.writes
      | false =>
          rw [w.perform_commit_of_not_isCurrent surroundings hcurrent]
          exact Store.Later.refl w.store
  | enqueueRefresh name =>
      simp only [perform]
      split <;> exact Store.Later.refl w.store
  | _ => exact Store.Later.refl w.store

end World

/-- One operation that was carried out, with the world and the surroundings that it met. -/
structure Turn where
  world : World
  surroundings : Surroundings
  op : Op

namespace Turn

/-- The world that a turn leaves. -/
def after (t : Turn) : World := (t.world.perform t.surroundings t.op).1

/-- Whether a turn reads, reports or comes to nothing. A request to the queue is never quiet. -/
def isQuiet (t : Turn) : Bool :=
  match t.op with
  | .commit a => !a.isCurrent t.world.store
  | .enqueueRefresh _ => false
  | .recordActivity _ => false
  | _ => true

/-- Whether a turn commits a transaction. -/
def commits (t : Turn) : Bool :=
  match t.op with
  | .commit a => a.isCurrent t.world.store
  | _ => false

theorem isQuiet_of_commits {t : Turn} (h : t.commits = true) : t.isQuiet = false := by
  obtain ⟨world, surroundings, op⟩ := t
  cases op with
  | commit a =>
      have hcurrent : a.isCurrent world.store = true := h
      simp only [isQuiet, hcurrent, Bool.not_true]
  | _ => cases h

/-- Only commits change the store. -/
theorem store_after_of_not_commits {t : Turn} (h : t.commits = false) : t.after.store = t.world.store := by
  obtain ⟨world, surroundings, op⟩ := t
  cases op with
  | commit a => rw [after, World.perform_commit_of_not_isCurrent surroundings world h]
  | enqueueRefresh name =>
      simp only [after, World.perform]
      split <;> rfl
  | _ => rfl

/-- What a turn writes to the store. -/
def writes (t : Turn) : List Store.Write :=
  match t.op with
  | .commit a => if a.isCurrent t.world.store then a.writes else []
  | _ => []

/-- The host rows that a turn stores. -/
def hosts (t : Turn) : List Host :=
  t.writes.filterMap fun write =>
    match write with
    | .insertHost host => some host
    | _ => none

theorem writes_of_isCurrent {t : Turn} {a : Attempt} (hop : t.op = .commit a)
    (hcurrent : a.isCurrent t.world.store = true) : t.writes = a.writes := by
  simp only [writes, hop, if_pos hcurrent]

theorem writes_of_not_commits {t : Turn} (h : t.commits = false) : t.writes = [] := by
  obtain ⟨world, surroundings, op⟩ := t
  cases op with
  | commit a =>
      have hstale : a.isCurrent world.store = false := h
      simp [writes, hstale]
  | _ => rfl

/-- A turn changes the store by what it writes. -/
theorem store_after (t : Turn) : t.after.store = t.world.store.applyAll t.writes := by
  cases hcommits : t.commits with
  | false =>
      rw [store_after_of_not_commits hcommits, writes_of_not_commits hcommits]
      rfl
  | true =>
      obtain ⟨world, surroundings, op⟩ := t
      cases op with
      | commit a =>
          rw [writes_of_isCurrent rfl hcommits]
          exact (world.perform_commit_of_isCurrent surroundings hcommits).2.1
      | _ => cases hcommits

/-- The turn itself, unless it is quiet. -/
def mark (t : Turn) : List Turn := if t.isQuiet then [] else [t]

theorem mark_of_isQuiet {t : Turn} (h : t.isQuiet = true) : t.mark = [] := by rw [mark, if_pos h]

theorem alike_of_isQuiet {t : Turn} (h : t.isQuiet = true) : t.world.Alike t.after := by
  obtain ⟨world, surroundings, op⟩ := t
  cases op with
  | commit a =>
      have hstale : a.isCurrent world.store = false := by simpa [isQuiet] using h
      rw [after, World.perform_commit_of_not_isCurrent surroundings world hstale]
      exact World.Alike.refl world
  | enqueueRefresh name => cases h
  | recordActivity activity => cases h
  | report event => exact ⟨rfl, rfl, rfl⟩
  | _ => exact World.Alike.refl world

end Turn

/-- What may go on around a piece of work: how others may change the world between two of its turns, and
what surroundings its turns may meet. What others report is no change. -/
structure Company where
  changes : World → World → Prop
  meets : Surroundings → Prop
  alike {v w : World} : v.Alike w → changes v w
  trans {u v w : World} : changes u v → changes v w → changes u w

namespace Company

variable {c : Company} {u v w : World}

theorem refl (c : Company) (w : World) : c.changes w w := c.alike (.refl w)

/-- Others leave of a store what its own operations leave of it. -/
def Grows (c : Company) : Prop := ∀ {v w : World}, c.changes v w → v.store.Later w.store

/-- A condition held of the store at some moment between two worlds. -/
def Meanwhile (c : Company) (v w : World) (P : Store → Prop) : Prop :=
  ∃ u, c.changes v u ∧ c.changes u w ∧ P u.store

theorem Meanwhile.widen {P : Store → Prop} {u' v' : World} (h : c.Meanwhile u v P) (hu : c.changes u' u)
    (hv : c.changes v v') : c.Meanwhile u' v' P := by
  obtain ⟨moment, hmoment, hmoment', hP⟩ := h
  exact ⟨moment, c.trans hu hmoment, c.trans hmoment' hv, hP⟩

theorem Meanwhile.of_changes {P : Store → Prop} (h : c.Meanwhile u v P) (hvw : c.changes v w) :
    c.Meanwhile u w P :=
  h.widen (c.refl u) hvw

/-- A call of the store may find it out of reach and meet a fault. -/
def Outage (c : Company) (call : Call) (fault : Fault) : Prop :=
  ∃ surroundings, c.meets surroundings ∧ surroundings.outage call = some fault

/-- Any number of others who use the operations of a store, in any surroundings. -/
def anyone : Company where
  changes v w := v.store.Later w.store
  meets _ := True
  alike h := h.store ▸ Store.Later.refl _
  trans huv hvw := huv.trans hvw

theorem anyone_grows : anyone.Grows := fun h => h

/-- Nobody else, and the given surroundings. -/
def none (surroundings : Surroundings) : Company where
  changes := World.Alike
  meets := (· = surroundings)
  alike h := h
  trans huv hvw := ⟨hvw.store.trans huv.store, hvw.queue.trans huv.queue, hvw.activity.trans huv.activity⟩

theorem none_grows (surroundings : Surroundings) : (none surroundings).Grows :=
  fun h => h.store ▸ Store.Later.refl _

end Company

namespace Work

variable {α β : Type} {c : Company}

/-- In some company, and from some world on, work always ends so that a condition holds of its turns that
were not quiet, the world at the end and its value. -/
def Ensures (c : Company) : Work α → (List Turn → World → α → Prop) → World → Prop
  | .done value, Q, w => ∀ w', c.changes w w' → Q [] w' value
  | .step op next, Q, w => ∀ w', c.changes w w' → ∀ surroundings, c.meets surroundings →
    (next (w'.perform surroundings op).2).Ensures c
      (fun turns => Q (Turn.mark ⟨w', surroundings, op⟩ ++ turns)) (w'.perform surroundings op).1

theorem Ensures.mono {p : Work α} {Q Q' : List Turn → World → α → Prop} {w : World} (h : p.Ensures c Q w)
    (hQ : ∀ turns w' value, Q turns w' value → Q' turns w' value) : p.Ensures c Q' w := by
  induction p generalizing Q Q' w with
  | done value => exact fun w' hw => hQ [] w' value (h w' hw)
  | step op next ih =>
      intro w' hw surroundings hmeets
      exact ih _ (h w' hw surroundings hmeets) fun turns => hQ (_ ++ turns)

/-- What is ensured stays so whatever the others do meanwhile. -/
theorem Ensures.of_changes {p : Work α} {Q : List Turn → World → α → Prop} {v w : World}
    (h : p.Ensures c Q v) (hvw : c.changes v w) : p.Ensures c Q w := by
  cases p with
  | done value => exact fun w' hw => h w' (c.trans hvw hw)
  | step op next => exact fun w' hw => h w' (c.trans hvw hw)

/-- What holds when work ends holds on, whatever the others do afterwards. -/
theorem Ensures.settled {p : Work α} {Q : List Turn → World → α → Prop} {w : World} (h : p.Ensures c Q w) :
    p.Ensures c (fun turns w' value => ∀ w'', c.changes w' w'' → Q turns w'' value) w := by
  induction p generalizing Q w with
  | done value => exact fun w' hw w'' hw' => h w'' (c.trans hw hw')
  | step op next ih => exact fun w' hw surroundings hmeets => ih _ (h w' hw surroundings hmeets)

/-- Work in two parts: what the first ensures is that the second ensures the rest. -/
theorem ensures_bind {p : Work α} {f : α → Work β} {Q : List Turn → World → β → Prop} {w : World}
    (h : p.Ensures c (fun turns w' a => (f a).Ensures c (fun more => Q (turns ++ more)) w') w) :
    (p >>= f).Ensures c Q w := by
  change (p.bind f).Ensures c Q w
  induction p generalizing Q w with
  | done a => exact h w (c.refl w)
  | step op next ih =>
      intro w' hw surroundings hmeets
      apply ih
      simpa only [List.append_assoc] using h w' hw surroundings hmeets

/-- Work of which the value is put in another form. -/
theorem ensures_map {p : Work α} {f : α → β} {Q : List Turn → World → β → Prop} {w : World}
    (h : p.Ensures c (fun turns w' a => Q turns w' (f a)) w) : (p >>= fun a => pure (f a)).Ensures c Q w := by
  apply ensures_bind
  apply h.settled.mono
  intro turns w' a ha w'' hw''
  simpa only [List.append_nil] using ha w'' hw''

/-- A quiet operation in front of work leaves nothing behind but its answer. -/
theorem ensures_step_of_isQuiet {op : Op} {next : op.Answer → Work α} {Q : List Turn → World → α → Prop}
    {w : World} (hop : ∀ (w' : World) (surroundings : Surroundings), Turn.isQuiet ⟨w', surroundings, op⟩ = true)
    (h : ∀ w', c.changes w w' → ∀ surroundings, c.meets surroundings →
      (next (w'.perform surroundings op).2).Ensures c Q w') :
    (Work.step op next).Ensures c Q w := by
  intro w' hw surroundings hmeets
  have hquiet := hop w' surroundings
  rw [Turn.mark_of_isQuiet hquiet]
  exact (h w' hw surroundings hmeets).of_changes (c.alike (Turn.alike_of_isQuiet hquiet))

/-- A commit in front of work is a turn that counts where the attempt is current, and else is quiet. -/
theorem ensures_commit_bind {a : Attempt} {f : Bool → Work β} {Q : List Turn → World → β → Prop} {w : World}
    (hcurrent : ∀ u, c.changes w u → ∀ surroundings, a.isCurrent u.store = true →
      (f true).Ensures c (fun more => Q ([⟨u, surroundings, .commit a⟩] ++ more))
        (Turn.after ⟨u, surroundings, .commit a⟩))
    (hstale : ∀ u, c.changes w u → a.isCurrent u.store = false → (f false).Ensures c Q u) :
    (perform (.commit a) >>= f).Ensures c Q w := by
  intro u hu surroundings _
  cases h : a.isCurrent u.store with
  | true =>
      have hmark : Turn.mark ⟨u, surroundings, .commit a⟩ = [⟨u, surroundings, .commit a⟩] := by
        simp [Turn.mark, Turn.isQuiet, h]
      rw [hmark, (u.perform_commit_of_isCurrent surroundings h).1]
      exact hcurrent u hu surroundings h
  | false =>
      have hquiet : Turn.isQuiet ⟨u, surroundings, .commit a⟩ = true := by
        simp [Turn.isQuiet, h]
      rw [Turn.mark_of_isQuiet hquiet, u.perform_commit_of_not_isCurrent surroundings h]
      exact hstale u hu h

/-- In every company work may end, so what it ensures happens for some turns. -/
theorem Ensures.exists_end {p : Work α} {Q : List Turn → World → α → Prop} {w : World}
    (h : p.Ensures c Q w) {surroundings : Surroundings} (hmeets : c.meets surroundings) :
    ∃ turns, Q turns (p.run surroundings w).1 (p.run surroundings w).2 := by
  induction p generalizing Q w with
  | done value => exact ⟨[], h w (c.refl w)⟩
  | step op next ih =>
      obtain ⟨turns, hturns⟩ := ih _ (h w (c.refl w) surroundings hmeets)
      exact ⟨_, hturns⟩

end Work

end Bailiwick
