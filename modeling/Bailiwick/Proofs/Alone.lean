import Bailiwick.Proofs.Interference

/-!
Work that nobody disturbs, operation by operation. What was reported before it makes no difference to it, and two
pieces of work that begin with the same looks are compared from there on.
-/

namespace Bailiwick

/-- Whether an operation leaves a world as it is, but for what is reported. -/
def Op.spares : Op → Bool
  | .commit _ => false
  | .enqueueRefresh _ => false
  | .recordActivity _ => false
  | _ => true

/-- Whether an operation is the first read of an attempt, with which a body that reads is begun. -/
def Op.begins : Op → Bool
  | .loadHost a _ _ => a.reads.isEmpty
  | .loadDomain a _ _ => a.reads.isEmpty
  | _ => false

/-- Whether an operation spares the world and belongs to no attempt. -/
def Op.looks : Op → Bool
  | .loadHost _ _ _ => false
  | .loadDomain _ _ _ => false
  | .discard _ => false
  | op => op.spares

namespace World

variable {u v w : World}

theorem Alike.trans (huv : u.Alike v) (hvw : v.Alike w) : u.Alike w :=
  ⟨hvw.store.trans huv.store, hvw.queue.trans huv.queue, hvw.activity.trans huv.activity⟩

theorem alike_perform {op : Op} (h : op.spares = true) (surroundings : Surroundings) (w : World) :
    w.Alike (w.perform surroundings op).1 := by
  cases op with
  | commit a => cases h
  | enqueueRefresh name => cases h
  | recordActivity activity => cases h
  | _ => exact ⟨rfl, rfl, rfl⟩

/-- No operation looks at what was reported. -/
theorem Alike.perform (h : v.Alike w) (surroundings : Surroundings) (op : Op) :
    (v.perform surroundings op).2 = (w.perform surroundings op).2 ∧
      (v.perform surroundings op).1.Alike (w.perform surroundings op).1 := by
  cases op with
  | commit a =>
      cases hcurrent : a.isCurrent v.store with
      | true =>
          obtain ⟨hanswer, hstore, hqueue, hactivity⟩ := v.perform_commit_of_isCurrent surroundings hcurrent
          rw [← h.store] at hcurrent
          obtain ⟨hanswer', hstore', hqueue', hactivity'⟩ := w.perform_commit_of_isCurrent surroundings hcurrent
          refine ⟨hanswer.trans hanswer'.symm, ?_, ?_, ?_⟩
          · rw [hstore, hstore', h.store]
          · rw [hqueue, hqueue', h.queue]
          · rw [hactivity, hactivity', h.activity]
      | false =>
          rw [v.perform_commit_of_not_isCurrent surroundings hcurrent]
          rw [← h.store] at hcurrent
          rw [w.perform_commit_of_not_isCurrent surroundings hcurrent]
          exact ⟨rfl, h⟩
  | enqueueRefresh name =>
      simp only [World.perform]
      cases surroundings.delivery with
      | accepted => exact ⟨rfl, h.store, congrArg (· ++ [name]) h.queue, h.activity⟩
      | rejected cause => exact ⟨rfl, h⟩
      | late => exact ⟨rfl, h⟩
  | recordActivity activity => exact ⟨rfl, h.store, h.queue, congrArg (· ++ [activity]) h.activity⟩
  | report event => exact ⟨rfl, h.store, h.queue, h.activity⟩
  | isManaged zone => exact ⟨by simp only [World.perform, h.store], h⟩
  | findDomain name now => exact ⟨by simp only [World.perform, h.store], h⟩
  | findHost name now => exact ⟨by simp only [World.perform, h.store], h⟩
  | openTransaction => exact ⟨rfl, h⟩
  | loadHost a name now => exact ⟨by simp only [World.perform, h.store], h⟩
  | loadDomain a name now => exact ⟨by simp only [World.perform, h.store], h⟩
  | discard a => exact ⟨rfl, h⟩

end World

theorem Op.spares_of_looks {op : Op} (h : op.looks = true) : op.spares = true := by
  cases op <;> first | rfl | cases h

theorem Op.not_begins_of_looks {op : Op} (h : op.looks = true) : op.begins = false := by
  cases op <;> first | rfl | cases h

namespace Work

variable {α β γ : Type} {surroundings : Surroundings} {v w : World}

/-- What work comes to does not depend on what was reported before it. -/
theorem run_alike (surroundings : Surroundings) (h : v.Alike w) (p : Work α) :
    (p.run surroundings v).2 = (p.run surroundings w).2 ∧
      (p.run surroundings v).1.Alike (p.run surroundings w).1 := by
  induction p generalizing v w with
  | done value => exact ⟨rfl, h⟩
  | step op next ih =>
      obtain ⟨hanswer, hleft⟩ := h.perform surroundings op
      simp only [run]
      rw [hanswer]
      exact ih _ hleft

theorem bind_pure_bind (p : Work α) (f : α → β) (g : β → Work γ) :
    ((p >>= fun a => pure (f a)) >>= g) = p >>= fun a => g (f a) := by
  change (p.bind fun a => .done (f a)).bind g = p.bind fun a => g (f a)
  induction p with
  | done a => rfl
  | step op next ih => exact congrArg (Work.step op) (funext ih)

/-- The operations of work that nobody disturbs, in order. -/
def ops (surroundings : Surroundings) (w : World) : Work α → List Op
  | .done _ => []
  | .step op next =>
    op :: (next (w.perform surroundings op).2).ops surroundings (w.perform surroundings op).1

theorem ops_bind (surroundings : Surroundings) (w : World) (p : Work α) (f : α → Work β) :
    (p >>= f).ops surroundings w
      = p.ops surroundings w ++ (f (p.run surroundings w).2).ops surroundings (p.run surroundings w).1 := by
  change (p.bind f).ops surroundings w = _
  induction p generalizing w with
  | done value => rfl
  | step op next ih => exact congrArg (op :: ·) (ih _ _)

/-- How many bodies of transactions work begins when nobody disturbs it. -/
def begun (surroundings : Surroundings) (w : World) (p : Work α) : Nat := (p.ops surroundings w).countP Op.begins

theorem begun_bind (surroundings : Surroundings) (w : World) (p : Work α) (f : α → Work β) :
    (p >>= f).begun surroundings w = p.begun surroundings w
      + (f (p.run surroundings w).2).begun surroundings (p.run surroundings w).1 := by
  rw [begun, ops_bind, List.countP_append]
  rfl

/-- Whatever the answers, every operation has one property and the value has another. -/
def Keeps (P : Op → Prop) (Q : α → Prop) : Work α → Prop
  | .done value => Q value
  | .step op next => P op ∧ ∀ answer, (next answer).Keeps P Q

variable {P : Op → Prop} {Q : α → Prop} {R : β → Prop}

theorem Keeps.bind {p : Work α} {f : α → Work β} (h : p.Keeps P Q) (hf : ∀ a, Q a → (f a).Keeps P R) :
    (p >>= f).Keeps P R := by
  change (p.bind f).Keeps P R
  induction p with
  | done a => exact hf a h
  | step op next ih => exact ⟨h.1, fun answer => ih answer (h.2 answer)⟩

theorem Keeps.mono {Q' : α → Prop} {P' : Op → Prop} {p : Work α} (h : p.Keeps P Q) (hP : ∀ op, P op → P' op)
    (hQ : ∀ a, Q a → Q' a) : p.Keeps P' Q' := by
  induction p with
  | done a => exact hQ a h
  | step op next ih => exact ⟨hP op h.1, fun answer => ih answer (h.2 answer)⟩

theorem Keeps.value {p : Work α} (h : p.Keeps P Q) (surroundings : Surroundings) (w : World) :
    Q (p.run surroundings w).2 := by
  induction p generalizing w with
  | done a => exact h
  | step op next ih => exact ih _ (h.2 _) _

/-- Work that spares the world at every operation leaves it as it was. -/
theorem Keeps.alike {p : Work α} (h : p.Keeps (fun op => op.spares = true) Q) (surroundings : Surroundings)
    (w : World) : w.Alike (p.run surroundings w).1 := by
  induction p generalizing w with
  | done a => exact .refl w
  | step op next ih => exact (World.alike_perform h.1 surroundings w).trans (ih _ (h.2 _) _)

/-- Work without transactions begins no body. -/
theorem Keeps.begun_eq_zero {p : Work α} (h : p.Keeps (fun op => op.begins = false) Q) (surroundings : Surroundings)
    (w : World) : p.begun surroundings w = 0 := by
  induction p generalizing w with
  | done a => rfl
  | step op next ih =>
      rw [begun, ops, List.countP_cons_of_neg (by rw [h.1]; exact Bool.false_ne_true)]
      exact ih _ (h.2 _) _

/-- A piece of work that leaves the world as it is, and another that is put to the same world: the number of bodies
that the first begins, its value and the value of the other are in a relation. -/
structure Foretells (R : Nat → α → β → Prop) (surroundings : Surroundings) (w : World) (p : Work α)
    (p' : Work β) : Prop where
  alike : w.Alike (p.run surroundings w).1
  related : R (p.begun surroundings w) (p.run surroundings w).2 (p'.run surroundings w).2

/-- What both pieces of work begin with may be left out, where it only looks. -/
theorem Foretells.bind {R : Nat → β → γ → Prop} {p : Work α} {f : α → Work β} {f' : α → Work γ}
    (h : p.Keeps (fun op => op.looks = true) Q)
    (hf : ∀ u a, w.Alike u → a = (p.run surroundings w).2 → Foretells R surroundings u (f a) (f' a)) :
    Foretells R surroundings w (p >>= f) (p >>= f') := by
  have hspares := h.mono (fun _ => Op.spares_of_looks) (fun _ => id)
  have hbegins := h.mono (fun _ => Op.not_begins_of_looks) (fun _ => id)
  have hleft := hspares.alike surroundings w
  have hrest := hf _ _ hleft rfl
  constructor
  · change w.Alike ((p.bind f).run surroundings w).1
    rw [run_bind]
    exact hleft.trans hrest.alike
  · have hvalues := hrest.related
    change R _ ((p.bind f).run surroundings w).2 ((p.bind f').run surroundings w).2
    rwa [run_bind, run_bind, begun_bind, hbegins.begun_eq_zero surroundings w, Nat.zero_add]

/-- What only looks may follow the first piece of work, and anything the other, as long as the values stay in a
relation. -/
theorem Foretells.seq {δ : Type} {R : Nat → α → β → Prop} {S : Nat → γ → δ → Prop} {p : Work α} {p' : Work β}
    {f : α → Work γ} {f' : β → Work δ} (h : Foretells R surroundings w p p')
    (hf : ∀ n a b, R n a b →
      (f a).Keeps (fun op => op.looks = true) fun c => (f' b).Keeps (fun _ => True) fun d => S n c d) :
    Foretells S surroundings w (p >>= f) (p' >>= f') := by
  have hrest := hf _ _ _ h.related
  have hspares := hrest.mono (fun _ => Op.spares_of_looks) (fun _ => id)
  have hbegins := hrest.mono (fun _ => Op.not_begins_of_looks) (fun _ => id)
  constructor
  · change w.Alike ((p.bind f).run surroundings w).1
    rw [run_bind]
    exact h.alike.trans (hspares.alike surroundings _)
  · change S _ ((p.bind f).run surroundings w).2 ((p'.bind f').run surroundings w).2
    rw [run_bind, run_bind, begun_bind, hbegins.begun_eq_zero surroundings _, Nat.add_zero]
    exact (hrest.value surroundings _).value surroundings _

end Work

end Bailiwick
