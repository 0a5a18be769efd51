/-!
Finite sets as strictly ascending lists, so that equal sets are equal values and are listed in one order.
-/

namespace Bailiwick

/-- A decidable total order, given by its strict part. -/
class SortOrder (α : Type) extends LT α where
  decide_lt (a b : α) : Decidable (a < b)
  lt_irrefl (a : α) : ¬ a < a
  lt_trans {a b c : α} : a < b → b < c → a < c
  eq_of_not_lt {a b : α} : ¬ a < b → ¬ b < a → a = b

instance SortOrder.decidableLt [SortOrder α] (a b : α) : Decidable (a < b) := SortOrder.decide_lt a b

instance : SortOrder String where
  decide_lt := inferInstance
  lt_irrefl := String.lt_irrefl
  lt_trans := String.lt_trans
  eq_of_not_lt hab hba := String.le_antisymm (String.not_lt.1 hba) (String.not_lt.1 hab)

structure SortedSet (α : Type) [SortOrder α] where
  toList : List α
  sorted : toList.Pairwise (· < ·)

namespace SortedSet

variable {α : Type} [SortOrder α]

instance [DecidableEq α] : DecidableEq (SortedSet α) := fun s t =>
  decidable_of_iff (s.toList = t.toList) ⟨fun h => by cases s; cases t; simp_all, fun h => by rw [h]⟩

instance [Repr α] : Repr (SortedSet α) where
  reprPrec s n := reprPrec s.toList n

def empty : SortedSet α := ⟨[], .nil⟩

instance : Membership α (SortedSet α) where
  mem s a := a ∈ s.toList

instance [DecidableEq α] (a : α) (s : SortedSet α) : Decidable (a ∈ s) :=
  inferInstanceAs (Decidable (a ∈ s.toList))

/-- An ascending list with one more element at its place. -/
def insertInto (a : α) : List α → List α
  | [] => [a]
  | b :: rest => if a < b then a :: b :: rest else if b < a then b :: insertInto a rest else b :: rest

theorem mem_insertInto {a x : α} {s : List α} : x ∈ insertInto a s ↔ x = a ∨ x ∈ s := by
  induction s with
  | nil => simp [insertInto]
  | cons b rest ih =>
    simp only [insertInto]
    split
    · simp
    · next hab =>
      split
      · simp only [List.mem_cons, ih]
        grind
      · next hba =>
        rw [SortOrder.eq_of_not_lt hab hba]
        simp

theorem pairwise_insertInto {a : α} {s : List α} (h : s.Pairwise (· < ·)) :
    (insertInto a s).Pairwise (· < ·) := by
  induction s with
  | nil => simp [insertInto]
  | cons b rest ih =>
    obtain ⟨hb, hrest⟩ := List.pairwise_cons.1 h
    simp only [insertInto]
    split
    · next hab =>
      refine List.pairwise_cons.2 ⟨fun x hx => ?_, h⟩
      rcases List.mem_cons.1 hx with rfl | hx
      · exact hab
      · exact SortOrder.lt_trans hab (hb x hx)
    · split
      · next hba =>
        refine List.pairwise_cons.2 ⟨fun x hx => ?_, ih hrest⟩
        rcases mem_insertInto.1 hx with rfl | hx
        · exact hba
        · exact hb x hx
      · exact h

def insert (a : α) (s : SortedSet α) : SortedSet α := ⟨insertInto a s.toList, pairwise_insertInto s.sorted⟩

def erase [DecidableEq α] (a : α) (s : SortedSet α) : SortedSet α :=
  ⟨s.toList.filter (· ≠ a), s.sorted.filter _⟩

/-- The elements of a list. -/
def ofList (items : List α) : SortedSet α := items.foldl (fun s a => s.insert a) empty

theorem mem_insert {a x : α} {s : SortedSet α} : x ∈ s.insert a ↔ x = a ∨ x ∈ s := mem_insertInto

theorem mem_erase [DecidableEq α] {a x : α} {s : SortedSet α} : x ∈ s.erase a ↔ x ∈ s ∧ x ≠ a := by
  show x ∈ s.toList.filter _ ↔ _
  simp only [List.mem_filter, decide_not, Bool.not_eq_true', decide_eq_false_iff_not]
  rfl

end SortedSet

end Bailiwick
