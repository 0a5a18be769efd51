import Bailiwick.Proofs.Store.Growth

/-!
Stores that come about by the operations of a store: edits, and the writes of transactions as they commit,
in any order.
-/

namespace Bailiwick.Store

/-- A store that has come about by its own operations. -/
inductive Built : Store → Prop where
  | empty : Built .empty
  | edit {s : Store} (h : Built s) (e : Edit) : Built (s.edit e)
  | commit {s : Store} (h : Built s) (writes : List Write) : Built (s.applyAll writes)

theorem Built.orderly {s : Store} (h : s.Built) : s.Orderly := by
  induction h with
  | empty => exact fun name domain hfound => by simp [Store.empty] at hfound
  | edit _ e ih => exact (later_edit _ e).orderly ih
  | commit _ writes ih => exact (later_applyAll _ writes).orderly ih

end Bailiwick.Store
