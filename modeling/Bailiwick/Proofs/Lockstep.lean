import Mathlib.Data.List.Forall2
import Bailiwick.Proofs.Turns
import Bailiwick.Proofs.Transaction.Serializable

/-!
Runs in lockstep. Two runs of a registry take the same turns and meet the same outages of the store, but the queue
answers each of them as it likes. Where no request lets more than a report depend on such an answer, the stores and
what has become of the requests agree at every moment.
-/

namespace Bailiwick

/-- Pieces of work that carry out the same operations but for what they report, whatever the queue answers either of
them, and that come to values in a relation. -/
inductive Work.Parallel {α β : Type} (R : α → β → Prop) : Work α → Work β → Prop where
  | done {a : α} {b : β} (h : R a b) : Parallel R (.done a) (.done b)
  | report {event event' : Event} {next : Unit → Work α} {next' : Unit → Work β}
      (h : Parallel R (next ()) (next' ())) :
      Parallel R (.step (.report event) next) (.step (.report event') next')
  | refresh {name : HostName} {next : Delivery → Work α} {next' : Delivery → Work β}
      (h : ∀ delivery delivery', Parallel R (next delivery) (next' delivery')) :
      Parallel R (.step (.enqueueRefresh name) next) (.step (.enqueueRefresh name) next')
  | step {op : Op} {next : op.Answer → Work α} {next' : op.Answer → Work β}
      (hop : ∀ name, op ≠ .enqueueRefresh name) (h : ∀ answer, Parallel R (next answer) (next' answer)) :
      Parallel R (.step op next) (.step op next')

namespace Work

variable {α β γ δ : Type} {R : α → β → Prop} {S : γ → δ → Prop}

theorem Parallel.bind {p : Work α} {p' : Work β} {f : α → Work γ} {f' : β → Work δ} (h : p.Parallel R p')
    (hf : ∀ a b, R a b → (f a).Parallel S (f' b)) : (p >>= f).Parallel S (p' >>= f') := by
  change (p.bind f).Parallel S (p'.bind f')
  induction h with
  | done h => exact hf _ _ h
  | report _ ih => exact .report ih
  | refresh _ ih => exact .refresh ih
  | step hop _ ih => exact .step hop ih

theorem parallel_perform (op : Op) (hop : ∀ name, op ≠ .enqueueRefresh name) :
    (perform op).Parallel (· = ·) (perform op) :=
  .step hop fun _ => .done rfl

theorem Parallel.value?_eq {p p' : Work α} (h : p.Parallel (· = ·) p') : p.value? = p'.value? := by
  cases h with
  | done h => rw [h]
  | _ => rfl

end Work

namespace Body

variable {α : Type}

theorem parallel_run (b : Body α) (a : Attempt) : (b.run a).Parallel (· = ·) (b.run a) := by
  induction b generalizing a with
  | done result => exact .done rfl
  | loadHost name now next ih => exact .step nofun fun answer => ih answer.1 answer.2
  | loadDomain name now next ih => exact .step nofun fun answer => ih answer.1 answer.2
  | write w rest ih => exact ih (a.write w)

end Body

namespace Transaction

variable {α : Type}

theorem parallel_attempts (mode : CommitMode) (budget : Nat) (body : Nat → Body α) (remaining number : Nat) :
    (attempts mode budget body remaining number).Parallel (· = ·)
      (attempts mode budget body remaining number) := by
  induction remaining generalizing number with
  | zero => exact .done rfl
  | succ remaining ih =>
      rw [attempts]
      refine ((body number).parallel_run .empty).bind ?_
      rintro ⟨result, a⟩ _ rfl
      cases result with
      | error refusal => exact .done rfl
      | ok value =>
          cases mode with
          | rollBack => exact .step (by rintro _ ⟨⟩) fun _ => .report (.done rfl)
          | commit =>
              refine .step (by rintro _ ⟨⟩) fun lasts => ?_
              cases lasts with
              | true => exact .report (.done rfl)
              | false => exact .report (ih (number + 1))

/-- A transaction never calls the queue. -/
theorem parallel_transact (mode : CommitMode) (maxAttempts : Nat) (body : Nat → Body α) :
    (transact mode maxAttempts body).Parallel (· = ·) (transact mode maxAttempts body) := by
  refine .step nofun fun answer => ?_
  cases answer with
  | error fault => exact .done rfl
  | ok _ => exact parallel_attempts mode _ body _ 1

end Transaction

namespace World

variable {v w : World} {surroundings surroundings' : Surroundings}

/-- What a request to the queue or a report leaves of the store, and any other operation leaves of it and answers,
depends on the store and on the outages alone. -/
theorem perform_agrees (hstore : v.store = w.store) (hreach : surroundings.outage = surroundings'.outage) (op : Op) :
    (v.perform surroundings op).1.store = (w.perform surroundings' op).1.store ∧
      ((∀ name, op ≠ .enqueueRefresh name) →
        (v.perform surroundings op).2 = (w.perform surroundings' op).2) := by
  cases op with
  | commit a =>
      cases hcurrent : a.isCurrent v.store with
      | true =>
          obtain ⟨hanswer, hleft, -⟩ := v.perform_commit_of_isCurrent surroundings hcurrent
          rw [hstore] at hcurrent
          obtain ⟨hanswer', hleft', -⟩ := w.perform_commit_of_isCurrent surroundings' hcurrent
          exact ⟨by rw [hleft, hleft', hstore], fun _ => hanswer.trans hanswer'.symm⟩
      | false =>
          rw [v.perform_commit_of_not_isCurrent surroundings hcurrent]
          rw [hstore] at hcurrent
          rw [w.perform_commit_of_not_isCurrent surroundings' hcurrent]
          exact ⟨hstore, fun _ => rfl⟩
  | enqueueRefresh name =>
      refine ⟨?_, fun hop => absurd rfl (hop name)⟩
      simp only [perform]
      split <;> split <;> exact hstore
  | isManaged zone => exact ⟨hstore, fun _ => by simp only [perform, reach, hstore, hreach]⟩
  | findDomain name now => exact ⟨hstore, fun _ => by simp only [perform, reach, hstore, hreach]⟩
  | findHost name now => exact ⟨hstore, fun _ => by simp only [perform, reach, hstore, hreach]⟩
  | openTransaction => exact ⟨hstore, fun _ => by simp only [perform, reach, hreach]⟩
  | loadHost a name now => exact ⟨hstore, fun _ => by simp only [perform, hstore]⟩
  | loadDomain a name now => exact ⟨hstore, fun _ => by simp only [perform, hstore]⟩
  | discard a => exact ⟨hstore, fun _ => rfl⟩
  | recordActivity activity => exact ⟨hstore, fun _ => rfl⟩
  | report event => exact ⟨hstore, fun _ => rfl⟩

end World

/-- Moves that differ at most in how the queue answers. -/
inductive Move.Agrees {α : Type} : Move α → Move α → Prop where
  | edit (e : Store.Edit) : Agrees (.edit e) (.edit e)
  | submit {p p' : Work α} (h : p.Parallel (· = ·) p') : Agrees (.submit p) (.submit p')
  | turn {number : Nat} {surroundings surroundings' : Surroundings}
      (hreach : surroundings.outage = surroundings'.outage) :
      Agrees (.turn number surroundings) (.turn number surroundings')

namespace Registry

variable {α : Type}

/-- Registries with one store, whose requests have come equally far. -/
structure Agrees (r r' : Registry α) : Prop where
  store : r.world.store = r'.world.store
  requests : List.Forall₂ (Work.Parallel (· = ·)) r.requests r'.requests

variable {r r' : Registry α}

/-- Related lists have related elements in every place, of which each pair may be put for another. -/
theorem forall₂_getElem? {β γ : Type} {R : β → γ → Prop} {l : List β} {l' : List γ} (h : List.Forall₂ R l l')
    (k : Nat) :
    (l[k]? = none ∧ l'[k]? = none) ∨ ∃ b c, l[k]? = some b ∧ l'[k]? = some c ∧ R b c ∧
      ∀ b' c', R b' c' → List.Forall₂ R (l.set k b') (l'.set k c') := by
  induction h generalizing k with
  | nil => exact .inl ⟨rfl, rfl⟩
  | @cons b c rest rest' hfirst hrest ih =>
      cases k with
      | zero => exact .inr ⟨b, c, rfl, rfl, hfirst, fun b' c' hR => .cons hR hrest⟩
      | succ k =>
          rcases ih k with hnone | ⟨b', c', hb, hc, hR, hset⟩
          · exact .inl hnone
          · exact .inr ⟨b', c', hb, hc, hR, fun b'' c'' hR' => .cons hfirst (hset b'' c'' hR')⟩

/-- One operation on both sides. -/
theorem Agrees.advance (h : r.Agrees r') {surroundings surroundings' : Surroundings}
    (hreach : surroundings.outage = surroundings'.outage) {p p' : Work α} (hp : p.Parallel (· = ·) p') :
    (p.advance surroundings r.world).1.store = (p'.advance surroundings' r'.world).1.store ∧
      (p.advance surroundings r.world).2.Parallel (· = ·) (p'.advance surroundings' r'.world).2 := by
  cases hp with
  | done hvalue => exact ⟨h.store, .done hvalue⟩
  | report hp => exact ⟨h.store, hp⟩
  | @refresh name _ _ hp => exact ⟨(World.perform_agrees h.store hreach (.enqueueRefresh name)).1, hp _ _⟩
  | @step op next next' hop hp =>
      obtain ⟨hstore, hanswer⟩ := World.perform_agrees h.store hreach op
      have hnext : (next (r.world.perform surroundings op).2).Parallel (· = ·)
          (next' (r'.world.perform surroundings' op).2) := hanswer hop ▸ hp _
      exact ⟨hstore, hnext⟩

theorem Agrees.move (h : r.Agrees r') {m m' : Move α} (hm : m.Agrees m') : (r.move m).Agrees (r'.move m') := by
  cases hm with
  | edit e => exact ⟨congrArg (Store.edit · e) h.store, h.requests⟩
  | submit hp => exact ⟨h.store, List.rel_append h.requests (.cons hp .nil)⟩
  | @turn number surroundings surroundings' hreach =>
      rcases forall₂_getElem? h.requests number with ⟨hnone, hnone'⟩ | ⟨p, p', hp, hp', hparallel, hset⟩
      · simp only [Registry.move, hnone, hnone']
        exact h
      · obtain ⟨hstore, hnext⟩ := h.advance hreach hparallel
        simp only [Registry.move, hp, hp']
        exact ⟨hstore, hset _ _ hnext⟩

/-- Runs that agree but for the answers of the queue lead to the same store and the same results. -/
theorem Agrees.play (h : r.Agrees r') {moves moves' : List (Move α)} (hmoves : List.Forall₂ Move.Agrees moves moves') :
    (r.play moves).Agrees (r'.play moves') := by
  induction hmoves generalizing r r' with
  | nil => exact h
  | cons hm _ ih => exact ih (h.move hm)

theorem Agrees.values_eq (h : r.Agrees r') : r.requests.map Work.value? = r'.requests.map Work.value? := by
  have hrequests := h.requests
  generalize r.requests = ps, r'.requests = ps' at hrequests ⊢
  induction hrequests with
  | nil => rfl
  | cons hp _ ih => rw [List.map_cons, List.map_cons, hp.value?_eq, ih]

end Registry

end Bailiwick
