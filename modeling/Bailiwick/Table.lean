/-!
Tables: rows under text keys, in the order in which their keys were first used.
-/

namespace Bailiwick

structure Table (ρ : Type) where
  entries : List (String × ρ)

namespace Table

def empty : Table ρ := ⟨[]⟩

def get? (t : Table ρ) (key : String) : Option ρ := t.entries.lookup key

/-- Entries with the row of a key replaced by what a function makes of it, or appended. -/
def alterEntries (key : String) (f : Option ρ → ρ) : List (String × ρ) → List (String × ρ)
  | [] => [(key, f none)]
  | (k, row) :: rest => if k = key then (k, f (some row)) :: rest else (k, row) :: alterEntries key f rest

/-- Sets the row of a key to what a function makes of the present one. -/
def alter (t : Table ρ) (key : String) (f : Option ρ → ρ) : Table ρ := ⟨alterEntries key f t.entries⟩

def put (t : Table ρ) (key : String) (row : ρ) : Table ρ := t.alter key fun _ => row

/-- Entries with the first row that satisfies a condition changed. -/
def updateFirstEntry (p : ρ → Bool) (f : ρ → ρ) : List (String × ρ) → List (String × ρ)
  | [] => []
  | (k, row) :: rest => if p row then (k, f row) :: rest else (k, row) :: updateFirstEntry p f rest

/-- Changes the first row that satisfies a condition, if there is one. -/
def updateFirst (t : Table ρ) (p : ρ → Bool) (f : ρ → ρ) : Table ρ := ⟨updateFirstEntry p f t.entries⟩

/-- Whether some row satisfies a condition. -/
def any (t : Table ρ) (p : ρ → Bool) : Bool := t.entries.any fun entry => p entry.2

theorem lookup_alterEntries (key k : String) (f : Option ρ → ρ) (entries : List (String × ρ)) :
    (alterEntries key f entries).lookup k
      = if k = key then some (f (entries.lookup key)) else entries.lookup k := by
  induction entries with
  | nil =>
    by_cases hk : k = key <;> simp [alterEntries, hk]
  | cons entry rest ih =>
    obtain ⟨a, row⟩ := entry
    by_cases hak : a = key
    · subst hak
      by_cases hk : k = a
      · simp [alterEntries, hk]
      · simp [alterEntries, List.lookup_cons, hk, beq_false_of_ne hk]
    · by_cases hka : k = a
      · subst hka
        simp [alterEntries, hak]
      · simp [alterEntries, List.lookup_cons, hak, beq_false_of_ne hka, beq_false_of_ne (Ne.symm hak), ih]

@[simp] theorem get?_empty (k : String) : (empty : Table ρ).get? k = none := rfl

/-- The row of the altered key is what the function makes of the former one; the others stay. -/
theorem get?_alter (t : Table ρ) (key k : String) (f : Option ρ → ρ) :
    (t.alter key f).get? k = if k = key then some (f (t.get? key)) else t.get? k :=
  lookup_alterEntries key k f t.entries

end Table

end Bailiwick
