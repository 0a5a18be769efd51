import Bailiwick.Proofs.Create.Flow
import Bailiwick.Proofs.Exchanges

/-!
The exchanges of flows. A flow adds its exchanges to a record whatever the answers are; the rules say how what it tells
comes from what its steps tell. A step that refuses ends the flow.
-/

namespace Bailiwick

namespace Op

/-- Whether an operation is anything but a report of an input that the lifecycle does not allow. -/
def isSound : Op → Bool
  | .report (.misstepped _) => false
  | _ => true

/-- Whether an operation is sound and does not call the queue. -/
def isPlain : Op → Bool
  | .enqueueRefresh _ => false
  | op => op.isSound

/-- Whether an operation is plain and opens no transaction. -/
def inquires : Op → Bool
  | .openTransaction => false
  | op => op.isPlain

theorem isSound_of_isPlain {op : Op} (h : op.isPlain = true) : op.isSound = true := by
  cases op with
  | enqueueRefresh name => rfl
  | _ => exact h

theorem isPlain_of_inquires {op : Op} (h : op.inquires = true) : op.isPlain = true := by
  cases op with
  | openTransaction => rfl
  | _ => exact h

end Op

/-- The report of a move to a state. -/
def Exchange.advanced (input : Create.Input) (state : Create.State) : Exchange := ⟨.report (.advanced input state), ()⟩

namespace Create

namespace Flow

variable {α β : Type} {trail : Trail} {log : List Exchange}

/-- Whatever it is told, a flow begun with a trail adds to a record and comes to a result and a trail. -/
def Tells (Q : List Exchange → Except Refusal α → Trail → Prop) (f : Flow α) (trail : Trail) (log : List Exchange) :
    Prop :=
  (f.run.run trail).Tells (fun log' reached => Q log' reached.1 reached.2) log

/-- What is left to tell of a flow once its first part has ended. -/
def Remains (g : α → Flow β) (Q : List Exchange → Except Refusal β → Trail → Prop) (log : List Exchange)
    (result : Except Refusal α) (trail : Trail) : Prop :=
  match result with
  | .ok a => (g a).Tells Q trail log
  | .error refusal => Q log (.error refusal) trail

variable {Q : List Exchange → Except Refusal α → Trail → Prop}

theorem Tells.mono {Q' : List Exchange → Except Refusal α → Trail → Prop} {f : Flow α} (h : f.Tells Q trail log)
    (hQ : ∀ log' result trail', Q log' result trail' → Q' log' result trail') : f.Tells Q' trail log :=
  Work.Tells.mono h fun log' reached => hQ log' reached.1 reached.2

theorem tells_bind {f : Flow α} {g : α → Flow β} {Q : List Exchange → Except Refusal β → Trail → Prop}
    (h : f.Tells (Remains g Q) trail log) : (f >>= g).Tells Q trail log := by
  refine Work.Tells.bind (Work.Tells.mono h ?_)
  rintro log' ⟨result, trail'⟩ hremains
  cases result with
  | ok a => exact hremains
  | error refusal => exact hremains

theorem tells_check {result : Except Refusal α} (h : Q log result trail) : (check result).Tells Q trail log := h

/-- Work whose result is that of the flow. -/
theorem tells_mk {p : Work (Except Refusal α)} (h : p.Tells (fun log' result => Q log' result trail) log) :
    Tells Q (ExceptT.mk (liftM p)) trail log :=
  Work.Tells.bind h

/-- A call of the store refuses with its fault. -/
theorem tells_ask {call : Work (Except Fault α)}
    (h : call.Tells (fun log' answer => Q log' (answer.mapError .fault) trail) log) :
    (ask call).Tells Q trail log := by
  have hpair : (call >>= fun answer => pure (answer, trail)).Tells
      (fun log' reached => Q log' (reached.1.mapError .fault) reached.2) log := Work.Tells.bind h
  exact Work.Tells.bind hpair

theorem tells_perform_bind {op : Op} {g : op.Answer → Flow α}
    (h : ∀ answer, (g answer).Tells Q trail (log ++ [⟨op, answer⟩])) : (perform op >>= g).Tells Q trail log := h

/-- A move that the trail allows is made and reported. -/
theorem tells_advance_bind {input : Input} {next : Trail} {g : Unit → Flow α} (hnext : trail.advance input = .ok next)
    (h : (g ()).Tells Q next (log ++ [.advanced input next.current])) :
    (advance input >>= g).Tells Q trail log := by
  apply tells_bind
  rw [Tells, run_advance_ok hnext]
  exact fun _ => h

end Flow

end Create

end Bailiwick
