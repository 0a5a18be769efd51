import Bailiwick.SortedSet
import Mathlib.Data.List.Sort

/-!
Sets are determined by their elements. A set is what its elements make in their order, and elements may be added to it
in any order.
-/

namespace Bailiwick.SortedSet

variable {α : Type} [SortOrder α]

theorem insertInto_of_forall_lt {a : α} {s : List α} (h : ∀ b ∈ s, b < a) : insertInto a s = s ++ [a] := by
  induction s with
  | nil => rfl
  | cons b rest ih =>
      have hb : b < a := h b List.mem_cons_self
      have hnot : ¬ a < b := fun hab => SortOrder.lt_irrefl a (SortOrder.lt_trans hab hb)
      rw [insertInto, if_neg hnot, if_pos hb, ih fun c hc => h c (List.mem_cons_of_mem b hc), List.cons_append]

theorem toList_foldl_insert {items : List α} {s : SortedSet α} (hitems : items.Pairwise (· < ·))
    (h : ∀ b ∈ s.toList, ∀ a ∈ items, b < a) :
    (items.foldl (fun s a => s.insert a) s).toList = s.toList ++ items := by
  induction items generalizing s with
  | nil => rw [List.foldl_nil, List.append_nil]
  | cons a rest ih =>
      obtain ⟨ha, hrest⟩ := List.pairwise_cons.1 hitems
      have hinsert : (s.insert a).toList = s.toList ++ [a] :=
        insertInto_of_forall_lt fun b hb => h b hb a List.mem_cons_self
      rw [List.foldl_cons, ih hrest, hinsert, List.append_assoc, List.singleton_append]
      intro b hb c hc
      rw [hinsert] at hb
      rcases List.mem_append.1 hb with hold | hnew
      · exact h b hold c (List.mem_cons_of_mem a hc)
      · rw [List.mem_singleton.1 hnew]
        exact ha c hc

theorem toList_injective {s t : SortedSet α} (h : s.toList = t.toList) : s = t := by
  cases s
  cases t
  cases h
  rfl

/-- A set is made of its elements. -/
theorem ofList_toList (s : SortedSet α) : ofList s.toList = s :=
  toList_injective (toList_foldl_insert (s := (empty : SortedSet α)) s.sorted nofun)

instance : @Std.Irrefl α (· < ·) := ⟨SortOrder.lt_irrefl⟩

instance : @Std.Antisymm α (· < ·) :=
  ⟨fun a _ hab hba => absurd (SortOrder.lt_trans hab hba) (SortOrder.lt_irrefl a)⟩

/-- Sets with the same elements are the same. -/
theorem eq_of_mem_iff {s t : SortedSet α} (h : ∀ a, a ∈ s ↔ a ∈ t) : s = t :=
  toList_injective (s.sorted.eq_of_mem_iff t.sorted fun {a} => h a)

/-- It does not matter which of two elements is added first. -/
theorem insert_comm (s : SortedSet α) (a b : α) : (s.insert a).insert b = (s.insert b).insert a := by
  apply eq_of_mem_iff
  intro x
  rw [mem_insert, mem_insert, mem_insert, mem_insert]
  exact or_left_comm

end Bailiwick.SortedSet
