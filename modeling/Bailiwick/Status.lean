import Bailiwick.SortedSet

/-!
Status values of registry objects, in the order in which sets of them are listed.
-/

namespace Bailiwick

inductive StatusValue where
  | ok
  | linked
  | pendingCreate
  | pendingDelete
  | pendingTransfer
  | pendingUpdate
  | clientDeleteProhibited
  | clientUpdateProhibited
  | serverDeleteProhibited
  | serverUpdateProhibited
  deriving DecidableEq, Repr

namespace StatusValue

/-- All values in order. -/
def all : List StatusValue :=
  [ok, linked, pendingCreate, pendingDelete, pendingTransfer, pendingUpdate, clientDeleteProhibited,
    clientUpdateProhibited, serverDeleteProhibited, serverUpdateProhibited]

def text : StatusValue → String
  | .ok => "ok"
  | .linked => "linked"
  | .pendingCreate => "pendingCreate"
  | .pendingDelete => "pendingDelete"
  | .pendingTransfer => "pendingTransfer"
  | .pendingUpdate => "pendingUpdate"
  | .clientDeleteProhibited => "clientDeleteProhibited"
  | .clientUpdateProhibited => "clientUpdateProhibited"
  | .serverDeleteProhibited => "serverDeleteProhibited"
  | .serverUpdateProhibited => "serverUpdateProhibited"

/-- The place of a value in the order. -/
def rank : StatusValue → Nat
  | .ok => 0
  | .linked => 1
  | .pendingCreate => 2
  | .pendingDelete => 3
  | .pendingTransfer => 4
  | .pendingUpdate => 5
  | .clientDeleteProhibited => 6
  | .clientUpdateProhibited => 7
  | .serverDeleteProhibited => 8
  | .serverUpdateProhibited => 9

theorem rank_injective {a b : StatusValue} (h : a.rank = b.rank) : a = b := by
  cases a <;> cases b <;> first | rfl | exact absurd h (by decide)

instance : SortOrder StatusValue where
  lt a b := a.rank < b.rank
  decide_lt a b := inferInstanceAs (Decidable (a.rank < b.rank))
  lt_irrefl a := Nat.lt_irrefl a.rank
  lt_trans hab hbc := Nat.lt_trans hab hbc
  eq_of_not_lt hab hba := rank_injective (Nat.le_antisymm (Nat.not_lt.1 hba) (Nat.not_lt.1 hab))

end StatusValue

/-- A set of status values. -/
abbrev StatusSet := SortedSet StatusValue

/-- What a new object starts with. -/
def StatusSet.default : StatusSet := SortedSet.empty.insert .ok

end Bailiwick
