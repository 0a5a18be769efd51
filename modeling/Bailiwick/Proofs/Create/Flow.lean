import Bailiwick.Create.Flow
import Bailiwick.Proofs.Interference

/-!
Flows in company. A flow is work that carries a trail and may refuse; the rules say how what it ensures
comes from what its steps ensure. A step that refuses ends the flow.
-/

namespace Bailiwick.Create.Flow

variable {α β : Type} {c : Company} {trail : Trail} {w : World}

/-- What a flow begun with a trail ensures of its turns that were not quiet, the world at its end, its result
and its trail. -/
def Ensures (c : Company) (f : Flow α) (trail : Trail)
    (Q : List Turn → World → Except Refusal α → Trail → Prop) (w : World) : Prop :=
  (f.run.run trail).Ensures c (fun turns w' reached => Q turns w' reached.1 reached.2) w

variable {Q : List Turn → World → Except Refusal α → Trail → Prop}

theorem Ensures.mono {Q' : List Turn → World → Except Refusal α → Trail → Prop} {f : Flow α}
    (h : f.Ensures c trail Q w)
    (hQ : ∀ turns w' result trail', Q turns w' result trail' → Q' turns w' result trail') :
    f.Ensures c trail Q' w :=
  Work.Ensures.mono h fun turns w' reached => hQ turns w' reached.1 reached.2

theorem Ensures.of_changes {f : Flow α} {v : World} (h : f.Ensures c trail Q v) (hvw : c.changes v w) :
    f.Ensures c trail Q w :=
  Work.Ensures.of_changes h hvw

/-- What is left to show of a flow once its first part has ended. -/
def Rest (c : Company) (g : α → Flow β) (Q : List Turn → World → Except Refusal β → Trail → Prop)
    (turns : List Turn) (w : World) (result : Except Refusal α) (trail : Trail) : Prop :=
  match result with
  | .ok a => (g a).Ensures c trail (fun more => Q (turns ++ more)) w
  | .error refusal => Q turns w (.error refusal) trail

theorem ensures_bind {f : Flow α} {g : α → Flow β} {Q : List Turn → World → Except Refusal β → Trail → Prop}
    (h : f.Ensures c trail (Rest c g Q) w) : (f >>= g).Ensures c trail Q w := by
  apply Work.ensures_bind
  refine (Work.Ensures.settled h).mono ?_
  rintro turns w' ⟨result, trail'⟩ hrest
  cases result with
  | ok a => exact hrest w' (c.refl w')
  | error refusal =>
      intro w'' hw''
      rw [List.append_nil]
      exact hrest w'' hw''

theorem ensures_pure {a : α} (h : ∀ w', c.changes w w' → Q [] w' (.ok a) trail) :
    Ensures c (pure a) trail Q w := h

theorem ensures_throw {refusal : Refusal} (h : ∀ w', c.changes w w' → Q [] w' (.error refusal) trail) :
    Ensures c (throw refusal) trail Q w := h

theorem ensures_check {result : Except Refusal α} (h : ∀ w', c.changes w w' → Q [] w' result trail) :
    Ensures c (check result) trail Q w := h

/-- Work whose result is that of the flow. -/
theorem ensures_mk {p : Work (Except Refusal α)}
    (h : p.Ensures c (fun turns w' result => Q turns w' result trail) w) :
    Ensures c (ExceptT.mk (liftM p)) trail Q w :=
  Work.ensures_map h

/-- Work whose value is turned into the result of the flow. -/
theorem ensures_map {p : Work β} {f : β → Except Refusal α}
    (h : p.Ensures c (fun turns w' b => Q turns w' (f b) trail) w) :
    Ensures c (ExceptT.mk do return f (← liftM p)) trail Q w := by
  have hpair : (p >>= fun b => pure (b, trail)).Ensures c
      (fun turns w' reached => Q turns w' (f reached.1) reached.2) w := Work.ensures_map h
  exact Work.ensures_map (Q := fun turns w' reached => Q turns w' reached.1 reached.2)
    (f := fun reached : β × Trail => (f reached.1, reached.2)) hpair

/-- A call of the store refuses with its fault. -/
theorem ensures_ask {call : Work (Except Fault α)}
    (h : call.Ensures c (fun turns w' answer => Q turns w' (answer.mapError .fault) trail) w) :
    Ensures c (ask call) trail Q w :=
  ensures_map h

theorem ensures_report {event : Event} {Q : List Turn → World → Except Refusal Unit → Trail → Prop}
    (h : ∀ w', c.changes w w' → Q [] w' (.ok ()) trail) : Ensures c (perform (.report event)) trail Q w :=
  ensures_map (f := .ok)
    (Work.ensures_step_of_isQuiet (fun _ _ => rfl) fun _ hu _ _ w' hw' => h w' (c.trans hu hw'))

theorem run_get_bind (f : Trail → Flow α) (trail : Trail) : (get >>= f).run.run trail = (f trail).run.run trail :=
  rfl

/-- A move that the trail allows is made and reported. -/
theorem run_advance_ok {input : Input} {next : Trail} (h : trail.advance input = .ok next) :
    (advance input).run.run trail = (perform (.report (.advanced input next.current))).run.run next := by
  unfold advance
  rw [run_get_bind, h]
  rfl

theorem run_advance_error {input : Input} {misstep : Misstep} (h : trail.advance input = .error misstep) :
    (advance input).run.run trail = (perform (.report (.misstepped misstep))).run.run trail := by
  unfold advance
  rw [run_get_bind, h]

theorem ensures_advance {input : Input} {next : Trail}
    {Q : List Turn → World → Except Refusal Unit → Trail → Prop} (hnext : trail.advance input = .ok next)
    (h : ∀ w', c.changes w w' → Q [] w' (.ok ()) next) : Ensures c (advance input) trail Q w := by
  rw [Ensures, run_advance_ok hnext]
  exact ensures_report h

/-- Whether or not the trail allows a move, it is only reported. -/
theorem ensures_run_advance (input : Input) (trail : Trail) (w : World) :
    ((advance input).run.run trail).Ensures c (fun turns now _ => turns = [] ∧ c.changes w now) w := by
  have hreport (event : Event) (trail : Trail) :
      ((perform (.report event)).run.run trail).Ensures c (fun turns now _ => turns = [] ∧ c.changes w now) w :=
    ensures_report (Q := fun turns now _ _ => turns = [] ∧ c.changes w now) fun _ hw => ⟨rfl, hw⟩
  cases hnext : trail.advance input with
  | ok next =>
      rw [run_advance_ok hnext]
      exact hreport _ next
  | error misstep =>
      rw [run_advance_error hnext]
      exact hreport _ trail

section Bind

variable {Q : List Turn → World → Except Refusal β → Trail → Prop} {g : Unit → Flow β}

theorem ensures_report_bind {event : Event} (h : (g ()).Ensures c trail Q w) :
    (perform (.report event) >>= g).Ensures c trail Q w :=
  ensures_bind (ensures_report fun _ hw => h.of_changes hw)

theorem ensures_advance_bind {input : Input} {next : Trail} (hnext : trail.advance input = .ok next)
    (h : (g ()).Ensures c next Q w) : (advance input >>= g).Ensures c trail Q w :=
  ensures_bind (ensures_advance hnext fun _ hw => h.of_changes hw)

/-- An operation in front of a flow meets some world and some surroundings. -/
theorem ensures_perform_bind {op : Op} {g : op.Answer → Flow β}
    (h : ∀ u, c.changes w u → ∀ surroundings, c.meets surroundings →
      (g (u.perform surroundings op).2).Ensures c trail
        (fun more => Q (Turn.mark ⟨u, surroundings, op⟩ ++ more)) (u.perform surroundings op).1) :
    (perform op >>= g).Ensures c trail Q w := by
  apply ensures_bind
  refine ensures_map (f := .ok) fun u hu surroundings hmeets v hv => ?_
  simp only [List.append_nil]
  exact (h u hu surroundings hmeets).of_changes hv

end Bind

/-- A flow that reads and reports at most, with what holds of its result at its end. -/
def Observes (c : Company) (f : Flow α) (w : World) (P : World → Except Refusal α → Prop) : Prop :=
  ∀ trail, f.Ensures c trail (fun turns now result trail' =>
    turns = [] ∧ trail' = trail ∧ c.changes w now ∧ P now result) w

/-- After a flow that only reads, the rest of a flow goes on with the same trail. -/
theorem Observes.ensures_bind {f : Flow α} {g : α → Flow β} {P : World → Except Refusal α → Prop}
    {Q : List Turn → World → Except Refusal β → Trail → Prop} (h : f.Observes c w P)
    (herror : ∀ now refusal, c.changes w now → P now (.error refusal) → Q [] now (.error refusal) trail)
    (hok : ∀ now a, c.changes w now → P now (.ok a) → (g a).Ensures c trail Q now) :
    (f >>= g).Ensures c trail Q w := by
  apply Flow.ensures_bind
  refine (h trail).mono ?_
  rintro turns now result trail' ⟨rfl, rfl, hnow, hP⟩
  cases result with
  | ok a => exact hok now a hnow hP
  | error refusal => exact herror now refusal hnow hP

theorem observes_check (result : Except Refusal α) :
    (check result).Observes c w fun _ reached => reached = result :=
  fun _ => ensures_check fun _ hw => ⟨rfl, rfl, hw, rfl⟩

end Bailiwick.Create.Flow
