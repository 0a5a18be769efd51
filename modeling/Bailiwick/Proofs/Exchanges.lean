import Bailiwick.Proofs.EditsAndTurns

/-!
What a piece of work is told. Work is run against any answers at all, and each operation is written down with its
answer. What holds of every such record holds of the turns of a request in a run, whatever the others do and however
far the request has come.
-/

namespace Bailiwick

/-- An operation with what it was answered. -/
structure Exchange where
  op : Op
  answer : op.Answer

/-- What was asked in a turn, and answered. -/
def Turn.exchange (t : Turn) : Exchange := ⟨t.op, (t.world.perform t.surroundings t.op).2⟩

/-- What the request with a number has asked in some deeds, and was answered. -/
def Deed.exchanges (number : Nat) (deeds : List Deed) : List Exchange := (Deed.turnsOf number deeds).map Turn.exchange

/-- Every operation on a record is of one kind. -/
def Logged (P : Op → Prop) (log : List Exchange) : Prop := ∀ e ∈ log, P e.op

namespace Logged

variable {P P' : Op → Prop} {log more : List Exchange}

theorem mono (h : Logged P log) (hP : ∀ op, P op → P' op) : Logged P' log := fun e he => hP e.op (h e he)

theorem append (h : Logged P log) (hmore : Logged P more) : Logged P (log ++ more) :=
  fun e he => (List.mem_append.1 he).elim (h e) (hmore e)

theorem cons {e : Exchange} (he : P e.op) (h : Logged P log) : Logged P (e :: log) := by
  intro other hother
  rcases List.mem_cons.1 hother with rfl | hmem
  · exact he
  · exact h other hmem

theorem nil : Logged P [] := fun _ he => absurd he List.not_mem_nil

theorem snoc (h : Logged P log) {e : Exchange} (he : P e.op) : Logged P (log ++ [e]) := h.append (cons he nil)

end Logged

namespace Work

variable {α β : Type} {P : Op → Prop} {Q : List Exchange → α → Prop}

/-- Whatever the answers, a record with the exchanges of work behind it and the value of the work are in a relation. -/
def Tells (Q : List Exchange → α → Prop) : Work α → List Exchange → Prop
  | .done a, log => Q log a
  | .step op next, log => ∀ answer, (next answer).Tells Q (log ++ [⟨op, answer⟩])

theorem Tells.mono {Q' : List Exchange → α → Prop} {p : Work α} {log : List Exchange} (h : p.Tells Q log)
    (hQ : ∀ log' a, Q log' a → Q' log' a) : p.Tells Q' log := by
  induction p generalizing log with
  | done a => exact hQ log a h
  | step op next ih => exact fun answer => ih answer (h answer)

theorem Tells.bind {R : List Exchange → β → Prop} {p : Work α} {f : α → Work β} {log : List Exchange}
    (h : p.Tells (fun log' a => (f a).Tells R log') log) : (p >>= f).Tells R log := by
  show (p.bind f).Tells R log
  induction p generalizing log with
  | done a => exact h
  | step op next ih => exact fun answer => ih answer (h answer)

/-- What work keeps of its operations holds of what it adds to a record. -/
theorem Keeps.tells {Q : α → Prop} {p : Work α} (h : p.Keeps P Q) (log : List Exchange) :
    p.Tells (fun log' a => (∃ more, log' = log ++ more ∧ Logged P more) ∧ Q a) log := by
  induction p generalizing log with
  | done a => exact ⟨⟨[], (List.append_nil log).symm, .nil⟩, h⟩
  | step op next ih =>
      intro answer
      refine (ih answer (h.2 answer) _).mono ?_
      rintro _ a ⟨⟨more, rfl, hmore⟩, ha⟩
      exact ⟨⟨⟨op, answer⟩ :: more, List.append_assoc .., hmore.cons h.1⟩, ha⟩

/-- Work comes to an end, and then what it tells holds. -/
theorem Tells.exists_end {p : Work α} {log : List Exchange} (h : p.Tells Q log) : ∃ more a, Q (log ++ more) a := by
  induction p generalizing log with
  | done a =>
      refine ⟨[], a, ?_⟩
      rw [List.append_nil]
      exact h
  | step op next ih =>
      obtain ⟨more, a, hQ⟩ := ih (World.perform .calm {} op).2 (h _)
      refine ⟨⟨op, (World.perform .calm {} op).2⟩ :: more, a, ?_⟩
      rw [List.append_assoc] at hQ
      exact hQ

/-- Where every record of work has operations of one kind only, so has work that has not ended yet. -/
theorem Tells.keeps {p : Work α} {log : List Exchange} (h : p.Tells (fun log' _ => Logged P log') log) :
    p.Keeps P fun _ => True := by
  induction p generalizing log with
  | done a => trivial
  | step op next ih =>
      refine ⟨?_, fun answer => ih answer (h answer)⟩
      obtain ⟨more, a, hmore⟩ := (h (World.perform .calm {} op).2).exists_end
      exact hmore ⟨op, _⟩ (List.mem_append_left _ (List.mem_append_right _ List.mem_cons_self))

namespace Takes

variable {number : Nat} {p q : Work α} {deeds : List Deed}

/-- What work tells is left to be told once the exchanges of some deeds are on the record. -/
theorem tells (h : p.Takes number deeds q) {log : List Exchange} (hp : p.Tells Q log) :
    q.Tells Q (log ++ Deed.exchanges number deeds) := by
  induction h generalizing log with
  | refl p =>
      rw [Deed.exchanges, Deed.turnsOf, List.filterMap_nil, List.map_nil, List.append_nil]
      exact hp
  | @aside _ _ deed deeds hdeed _ ih =>
      have hown : Deed.turnsOf number (deed :: deeds) = Deed.turnsOf number deeds := List.filterMap_cons_none hdeed
      rw [Deed.exchanges, hown]
      exact ih hp
  | @step op _ w surroundings deeds _ _ ih =>
      have hown : Deed.turnsOf number (.turn number ⟨w, surroundings, op⟩ :: deeds)
          = ⟨w, surroundings, op⟩ :: Deed.turnsOf number deeds := List.filterMap_cons_some (Deed.own?_turn ..)
      rw [Deed.exchanges, hown, List.map_cons, List.append_cons]
      exact ih (hp _)

/-- What work tells holds of the exchanges of its deeds and of its value, once it is done. -/
theorem tells_done {a : α} (h : p.Takes number deeds (.done a)) (hp : p.Tells Q []) :
    Q (Deed.exchanges number deeds) a :=
  h.tells hp

/-- What is said of the operations of work when it is done holds however far it has come. -/
theorem logged (h : p.Takes number deeds q) (hp : p.Tells (fun log _ => Logged P log) []) :
    Logged P (Deed.exchanges number deeds) := by
  intro e he
  obtain ⟨turn, hturn, rfl⟩ := List.mem_map.1 he
  exact (h.keeps hp.keeps).1 turn (Deed.mem_turnsOf.1 hturn)

end Takes

end Work

end Bailiwick
