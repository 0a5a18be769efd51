import Bailiwick.Text.Blank
import Bailiwick.Text.Pieces
import Mathlib.Data.List.DropRight

/-!
What splitting and joining do to the characters of a text: pieces hold characters of the text and no separator, and
a join holds the characters of its pieces and separators. Trimming leaves a text without blanks as it is, whatever
blanks stand around it.
-/

namespace Bailiwick.Text

variable {sep : Char} {s piece : List Char}

/-- A character in front of a text that is no separator belongs to its first piece. -/
theorem splitAt_cons_of_ne {c : Char} (h : c ≠ sep) (s : List Char) :
    ∃ first rest, splitAt sep s = first :: rest ∧ splitAt sep (c :: s) = (c :: first) :: rest := by
  obtain ⟨first, rest, hsplit⟩ := List.exists_cons_of_ne_nil (splitAt_ne_nil sep s)
  refine ⟨first, rest, hsplit, ?_⟩
  rw [splitAt, if_neg h, hsplit]

/-- Characters in front of a text, with no separator among them, belong to its first piece. -/
theorem splitAt_append (h : sep ∉ piece) (s : List Char) :
    ∃ first rest, splitAt sep s = first :: rest ∧ splitAt sep (piece ++ s) = (piece ++ first) :: rest := by
  induction piece with
  | nil =>
      obtain ⟨first, rest, hsplit⟩ := List.exists_cons_of_ne_nil (splitAt_ne_nil sep s)
      exact ⟨first, rest, hsplit, hsplit⟩
  | cons c piece ih =>
      simp only [List.mem_cons, not_or] at h
      obtain ⟨first, rest, hsplit, happend⟩ := ih h.2
      obtain ⟨joined, others, hjoined, hcons⟩ := splitAt_cons_of_ne (Ne.symm h.1) (piece ++ s)
      obtain ⟨rfl, rfl⟩ := List.cons.inj (hjoined.symm.trans happend)
      exact ⟨first, _, hsplit, hcons⟩

theorem splitAt_cons_sep (sep : Char) (s : List Char) : splitAt sep (sep :: s) = [] :: splitAt sep s := by
  rw [splitAt, if_pos rfl]

/-- A separator parts the pieces in front of it from those behind it. -/
theorem splitAt_append_sep (sep : Char) (s t : List Char) :
    splitAt sep (s ++ sep :: t) = splitAt sep s ++ splitAt sep t := by
  induction s with
  | nil => exact splitAt_cons_sep sep t
  | cons c s ih =>
      by_cases hc : c = sep
      · subst hc
        rw [List.cons_append, splitAt_cons_sep, splitAt_cons_sep, ih, List.cons_append]
      · obtain ⟨first, rest, hsplit, hcons⟩ := splitAt_cons_of_ne hc s
        obtain ⟨joined, others, hjoined, happend⟩ := splitAt_cons_of_ne hc (s ++ sep :: t)
        rw [ih, hsplit, List.cons_append] at hjoined
        obtain ⟨rfl, rfl⟩ := List.cons.inj hjoined
        rw [List.cons_append, happend, hcons, List.cons_append]

theorem splitAt_injective (sep : Char) {s t : List Char} (h : splitAt sep s = splitAt sep t) : s = t := by
  rw [← joinWith_splitAt sep s, h, joinWith_splitAt]

theorem mem_joinWith {pieces : List (List Char)} {c : Char} (h : c ∈ joinWith sep pieces) :
    c = sep ∨ ∃ piece ∈ pieces, c ∈ piece := by
  induction pieces with
  | nil => cases h
  | cons piece pieces ih =>
      by_cases hrest : pieces = []
      · subst hrest
        exact .inr ⟨piece, List.mem_cons_self, h⟩
      · rw [joinWith_cons_of_ne_nil sep piece hrest] at h
        rcases List.mem_append.1 h with hpiece | hlater
        · exact .inr ⟨piece, List.mem_cons_self, hpiece⟩
        · rcases List.mem_cons.1 hlater with hsep | hjoin
          · exact .inl hsep
          · rcases ih hjoin with hsep | ⟨other, hother, hc⟩
            · exact .inl hsep
            · exact .inr ⟨other, List.mem_cons_of_mem _ hother, hc⟩

theorem mem_joinWith_of_mem {pieces : List (List Char)} {c : Char} (hpiece : piece ∈ pieces) (hc : c ∈ piece) :
    c ∈ joinWith sep pieces := by
  induction pieces with
  | nil => cases hpiece
  | cons first pieces ih =>
      by_cases hrest : pieces = []
      · subst hrest
        obtain rfl := List.mem_singleton.1 hpiece
        exact hc
      · rw [joinWith_cons_of_ne_nil sep first hrest]
        rcases List.mem_cons.1 hpiece with rfl | hlater
        · exact List.mem_append_left _ hc
        · exact List.mem_append_right _ (List.mem_cons_of_mem _ (ih hlater))

/-- The characters of the pieces are characters of the text. -/
theorem mem_of_mem_splitAt {c : Char} (hpiece : piece ∈ splitAt sep s) (hc : c ∈ piece) : c ∈ s := by
  rw [← joinWith_splitAt sep s]
  exact mem_joinWith_of_mem hpiece hc

/-- A join is made as the library makes it. -/
theorem joinWith_eq_intercalate (sep : Char) (pieces : List (List Char)) :
    joinWith sep pieces = [sep].intercalate pieces := by
  induction pieces with
  | nil => rfl
  | cons piece pieces ih =>
      by_cases hrest : pieces = []
      · subst hrest
        rw [List.intercalate_singleton]
        rfl
      · rw [joinWith_cons_of_ne_nil sep piece hrest, List.intercalate_cons_of_ne_nil hrest, ih, List.append_assoc]
        rfl

/-! ### Trimming -/

theorem not_blank_of_mem_joinWith {sep : Char} {pieces : List (List Char)} (hsep : isBlank sep = false)
    (hpieces : ∀ piece ∈ pieces, ∀ c ∈ piece, isBlank c = false) : ∀ c ∈ joinWith sep pieces, isBlank c = false := by
  intro c hc
  rcases mem_joinWith hc with rfl | ⟨piece, hpiece, hmem⟩
  · exact hsep
  · exact hpieces piece hpiece c hmem

theorem trimStart_append {front : List Char} (hfront : ∀ c ∈ front, isBlank c = true) (s : List Char) :
    trimStart (front ++ s) = trimStart s :=
  List.dropWhile_append_of_pos hfront

theorem trimEnd_append {back : List Char} (hback : ∀ c ∈ back, isBlank c = true) (s : List Char) :
    trimEnd (s ++ back) = trimEnd s := by
  have hreverse : ∀ c ∈ back.reverse, isBlank c = true := fun c hc => hback c (List.mem_reverse.1 hc)
  rw [trimEnd, List.reverse_append, List.dropWhile_append_of_pos hreverse]
  rfl

theorem trimStart_cons_of_not_blank {c : Char} (hc : isBlank c = false) (s : List Char) :
    trimStart (c :: s) = c :: s :=
  List.dropWhile_cons_of_neg (ne_true_of_eq_false hc)

theorem trimEnd_of_not_blank (hs : ∀ c ∈ s, isBlank c = false) : trimEnd s = s := by
  have hreverse : trimStart s.reverse = s.reverse := by
    cases hrev : s.reverse with
    | nil => rfl
    | cons c later =>
        have hmem : c ∈ s.reverse := hrev ▸ List.mem_cons_self
        exact trimStart_cons_of_not_blank (hs c (List.mem_reverse.1 hmem)) later
  change (trimStart s.reverse).reverse = s
  rw [hreverse, List.reverse_reverse]

/-- Trimming takes nothing from a text without blanks. -/
theorem trim_of_not_blank (hs : ∀ c ∈ s, isBlank c = false) : trim s = s := by
  cases s with
  | nil => rfl
  | cons c rest => rw [trim, trimStart_cons_of_not_blank (hs c List.mem_cons_self), trimEnd_of_not_blank hs]

theorem head?_trimStart (s : List Char) : ∀ c ∈ (trimStart s).head?, isBlank c = false := by
  intro c hc
  have hhead := List.head?_dropWhile_not isBlank s
  rw [trimStart, Option.mem_def] at hc
  rwa [hc] at hhead

theorem trimStart_eq_nil_iff : trimStart s = [] ↔ ∀ c ∈ s, isBlank c = true := List.dropWhile_eq_nil_iff

theorem exists_trimEnd_append (s : List Char) : ∃ back, trimEnd s ++ back = s := List.rdropWhile_prefix isBlank s

/-- No blank is left at the start. -/
theorem head?_trim (s : List Char) : ∀ c ∈ (trim s).head?, isBlank c = false := by
  intro c hc
  obtain ⟨back, hback⟩ := exists_trimEnd_append (trimStart s)
  obtain ⟨later, hlater⟩ := List.head?_eq_some_iff.1 hc
  refine head?_trimStart s c ?_
  rw [← hback, ← trim, hlater]
  rfl

/-- No blank is left at the end. -/
theorem getLast?_trim (s : List Char) : ∀ c ∈ (trim s).getLast?, isBlank c = false := by
  intro c hc
  rw [trim, trimEnd, List.getLast?_reverse] at hc
  exact head?_trimStart _ c hc

/-- Nothing is left of blanks only. -/
theorem trim_eq_nil_iff : trim s = [] ↔ ∀ c ∈ s, isBlank c = true := by
  have hagain : trimStart (trimStart s) = trimStart s := List.dropWhile_idempotent isBlank s
  have hend : trim s = [] ↔ ∀ c ∈ trimStart s, isBlank c = true := List.rdropWhile_eq_nil_iff
  rw [hend, ← trimStart_eq_nil_iff, hagain, trimStart_eq_nil_iff]

theorem mem_of_mem_trim {c : Char} (h : c ∈ trim s) : c ∈ s := by
  obtain ⟨back, hback⟩ := exists_trimEnd_append (trimStart s)
  have hstart : c ∈ trimStart s := by
    rw [← hback]
    exact List.mem_append_left back h
  exact (List.dropWhile_sublist isBlank).subset hstart

/-- Blanks around a text without blanks are what trimming takes away. -/
theorem trim_append_append {front back : List Char} (hfront : ∀ c ∈ front, isBlank c = true)
    (hs : ∀ c ∈ s, isBlank c = false) (hback : ∀ c ∈ back, isBlank c = true) : trim (front ++ s ++ back) = s := by
  rw [trim, List.append_assoc, trimStart_append hfront]
  cases s with
  | nil =>
      have hnil : trimStart (back ++ []) = [] := trimStart_append hback []
      rw [List.nil_append, ← List.append_nil back, hnil]
      rfl
  | cons c rest =>
      rw [List.cons_append, trimStart_cons_of_not_blank (hs c List.mem_cons_self), ← List.cons_append,
        trimEnd_append hback, trimEnd_of_not_blank hs]

end Bailiwick.Text
