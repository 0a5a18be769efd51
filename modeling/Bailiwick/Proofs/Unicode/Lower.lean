import Mathlib.Data.List.Forall2
import Bailiwick.Unicode.Case

/-!
Laws of lower-casing. A text is put in lower case piece by piece, each character becoming some characters; ASCII
characters become what they become without any context, and the only ASCII characters that others become are letters.
A text in lower case stays as it is.
-/

namespace Bailiwick.Unicode

/-- What holds of every ASCII character, which is one of the first 128, holds of an ASCII character. -/
theorem ascii_cases {P : Char → Prop} (h : ∀ n < 0x80, P (Char.ofNat n)) {c : Char} (hc : c.toNat < 0x80) : P c := by
  have hP := h c.toNat hc
  rwa [Char.ofNat_toNat] at hP

/-- A text of ASCII characters. -/
abbrev AsciiText (s : List Char) : Prop := ∀ c ∈ s, c.toNat < 0x80

/-- A text without ASCII capitals. -/
abbrev Uncapped (s : List Char) : Prop := ∀ c ∈ s, c.isUpper = false

-- Decided along the text; a decision over all characters would not end.
instance : DecidablePred AsciiText := fun s => List.decidableBAll (fun c : Char => c.toNat < 0x80) s

instance : DecidablePred Uncapped := fun s => List.decidableBAll (fun c : Char => c.isUpper = false) s

theorem toNat_ofNat {n : Nat} (h : n.isValidChar) : (Char.ofNat n).toNat = n := by
  rw [Char.ofNat, dif_pos h]
  rfl

/-- What a character may become in lower case. -/
structure Becomes (c : Char) (piece : List Char) : Prop where
  nonempty : piece ≠ []
  ascii : c.toNat < 0x80 → piece = [c.toLower]
  letters : 0x80 ≤ c.toNat → ∀ d ∈ piece, d.toNat < 0x80 → d.isAlpha = true

/-- The laws of a conversion to lower case. -/
structure IsLowering (lower : List Char → List Char) : Prop where
  idempotent : ∀ s, lower (lower s) = lower s
  piecewise : ∀ s, ∃ pieces, List.Forall₂ Becomes s pieces ∧ lower s = pieces.flatten

theorem flatten_of_ascii {s : List Char} {pieces : List (List Char)} (h : List.Forall₂ Becomes s pieces)
    (hs : AsciiText s) : pieces.flatten = s.map Char.toLower := by
  induction h with
  | nil => rfl
  | cons hfirst _ ih =>
      rw [List.flatten_cons, List.map_cons, hfirst.ascii (hs _ List.mem_cons_self),
        ih fun c hc => hs c (List.mem_cons_of_mem _ hc)]
      rfl

/-- In ASCII texts every character is lowered alone. -/
theorem IsLowering.lower_of_ascii {lower : List Char → List Char} (h : IsLowering lower) {s : List Char}
    (hs : AsciiText s) : lower s = s.map Char.toLower := by
  obtain ⟨pieces, hpieces, hlower⟩ := h.piecewise s
  rw [hlower, flatten_of_ascii hpieces hs]

theorem toLower_of_not_isUpper {c : Char} (h : c.isUpper = false) : c.toLower = c :=
  dif_neg (of_decide_eq_false h)

theorem map_toLower_of_uncapped {s : List Char} (h : Uncapped s) : s.map Char.toLower = s :=
  (List.map_congr_left fun c hc => toLower_of_not_isUpper (h c hc)).trans (List.map_id s)

/-- ASCII texts without capitals stay as they are. -/
theorem IsLowering.lower_eq_self {lower : List Char → List Char} (h : IsLowering lower) {s : List Char}
    (hs : AsciiText s) (hupper : Uncapped s) : lower s = s := by
  rw [h.lower_of_ascii hs, map_toLower_of_uncapped hupper]

theorem moved?_eq_none {runs : List Run} {c : Char} (h : ∀ run ∈ runs, ¬ run.Has c.toNat) : moved? runs c = none := by
  rw [moved?, List.find?_eq_none.2 fun run hrun => by rw [decide_eq_true_eq]; exact h run hrun, Option.map_none]

theorem exists_run_of_moved? {runs : List Run} {c d : Char} (h : moved? runs c = some d) :
    ∃ run ∈ runs, run.Has c.toNat ∧ d = Char.ofNat (run.move c.toNat) := by
  obtain ⟨run, hrun, hd⟩ := Option.map_eq_some_iff.1 h
  have hhas := List.find?_some hrun
  rw [decide_eq_true_eq] at hhas
  exact ⟨run, List.mem_of_find?_eq_some hrun, hhas, hd.symm⟩

/-- The lower-case forms that a run leads to have no lower-case form but themselves: they are in no run, or between
the capitals of one. -/
theorem lowerRuns_apart : ∀ run ∈ lowerRuns, ∀ other ∈ lowerRuns,
    run.move run.last < other.first ∨ other.last < run.image ∨
      ((run.first = run.last ∨ run.step = 2) ∧ other.step = 2 ∧ (run.image + other.first) % 2 = 1) := by
  decide +kernel

theorem lowerRuns_bounds : ∀ run ∈ lowerRuns,
    (run.move run.last < 0xD800 ∨ 0xE000 ≤ run.image ∧ run.move run.last < 0x110000) ∧
      (0x130 < run.image ∨ run.move run.last < 0x130) ∧ (0x3A3 < run.image ∨ run.move run.last < 0x3A3) ∧
      (0x80 ≤ run.image ∨ run.first = run.last ∧ 0x61 ≤ run.image ∧ run.image ≤ 0x7A) := by
  decide +kernel

/-- A character that lower-casing leaves alone wherever it stands. -/
def IsLowered (c : Char) : Prop := c ≠ 'Σ' ∧ lowerChar c = [c]

instance (c : Char) : Decidable (IsLowered c) := inferInstanceAs (Decidable (_ ∧ _))

theorem isLowered_toLower {c : Char} (hc : c.toNat < 0x80) : IsLowered c.toLower :=
  ascii_cases (P := fun c => IsLowered c.toLower) (by decide) hc

theorem lowerChar_of_moved? {c : Char} (hascii : 0x80 ≤ c.toNat) (hdotted : c.toNat ≠ 0x130) :
    lowerChar c = [(moved? lowerRuns c).getD c] := by
  rw [lowerChar, if_neg (Nat.not_lt.2 hascii), if_neg hdotted]

theorem isLowered_of_not_run {c : Char} (hascii : 0x80 ≤ c.toNat) (hdotted : c.toNat ≠ 0x130) (hsigma : c ≠ 'Σ')
    (hruns : ∀ run ∈ lowerRuns, ¬ run.Has c.toNat) : IsLowered c := by
  refine ⟨hsigma, ?_⟩
  rw [lowerChar_of_moved? hascii hdotted, moved?_eq_none hruns, Option.getD_none]

theorem Run.Has.move_mem {run : Run} {n : Nat} (h : run.Has n) :
    run.image ≤ run.move n ∧ run.move n ≤ run.move run.last := by
  obtain ⟨hfirst, hlast, -⟩ := h
  simp only [Run.move]
  omega

theorem toNat_move {run : Run} (hrun : run ∈ lowerRuns) {n : Nat} (hn : run.Has n) :
    (Char.ofNat (run.move n)).toNat = run.move n := by
  obtain ⟨hvalid, -⟩ := lowerRuns_bounds run hrun
  obtain ⟨hfrom, hto⟩ := hn.move_mem
  refine toNat_ofNat ?_
  rcases hvalid with hlow | ⟨hhigh, hmax⟩
  · exact .inl (by omega)
  · exact .inr ⟨by omega, by omega⟩

/-- What a run leads to is in no run. -/
theorem not_has_move {run other : Run} (hrun : run ∈ lowerRuns) (hother : other ∈ lowerRuns) {n : Nat}
    (hn : run.Has n) : ¬ other.Has (run.move n) := by
  rintro ⟨hge, hle, hmod⟩
  obtain ⟨hfrom, hto⟩ := hn.move_mem
  obtain ⟨hfirst, hlast, hstep⟩ := hn
  rcases lowerRuns_apart run hrun other hother with h | h | ⟨hone, htwo, hodd⟩
  · omega
  · omega
  · -- The two runs have the same step, and one has the odd code points where the other has the even ones.
    rw [htwo] at hmod
    have heven : (n - run.first) % 2 = 0 := by
      rcases hone with hone | hone
      · omega
      · rw [hone] at hstep
        exact hstep
    simp only [Run.move] at hge hmod
    omega

/-- What a run leads to is in lower case. -/
theorem isLowered_of_run {run : Run} (hrun : run ∈ lowerRuns) {n : Nat} (hn : run.Has n) :
    IsLowered (Char.ofNat (run.move n)) ∧
      ((Char.ofNat (run.move n)).toNat < 0x80 → (Char.ofNat (run.move n)).isAlpha = true) := by
  obtain ⟨-, hdotted, hsigma, hascii⟩ := lowerRuns_bounds run hrun
  obtain ⟨hfrom, hto⟩ := hn.move_mem
  have hnat := toNat_move hrun hn
  rcases hascii with hascii | ⟨hsingle, hlower, hupper⟩
  · have hnotSigma : Char.ofNat (run.move n) ≠ 'Σ' := by
      intro heq
      rw [heq] at hnat
      have hcode : 'Σ'.toNat = 0x3A3 := rfl
      omega
    constructor
    · refine isLowered_of_not_run (by omega) (by omega) hnotSigma fun other hother => ?_
      rw [hnat]
      exact not_has_move hrun hother hn
    · omega
  · have hletter : ∀ code < 0x80, 0x61 ≤ code → code ≤ 0x7A →
        IsLowered (Char.ofNat code) ∧ (Char.ofNat code).isAlpha = true := by
      decide
    have honly : run.move n = run.image := by
      obtain ⟨hfirst, hlast, -⟩ := hn
      simp only [Run.move]
      omega
    rw [honly]
    obtain ⟨hlowered, halpha⟩ := hletter run.image (by omega) hlower hupper
    exact ⟨hlowered, fun _ => halpha⟩

/-- A character other than the sigma becomes what is in lower case. -/
theorem becomes_lowerChar {c : Char} (hc : c ≠ 'Σ') : Becomes c (lowerChar c) ∧ ∀ d ∈ lowerChar c, IsLowered d := by
  by_cases hascii : c.toNat < 0x80
  · have hlower : lowerChar c = [c.toLower] := by rw [lowerChar, if_pos hascii]
    rw [hlower]
    refine ⟨⟨List.cons_ne_nil _ _, fun _ => rfl, fun h => absurd hascii (Nat.not_lt.2 h)⟩, ?_⟩
    exact List.forall_mem_singleton.2 (isLowered_toLower hascii)
  · by_cases hdotted : c.toNat = 0x130
    · have hlower : lowerChar c = ['i', '\u0307'] := by rw [lowerChar, if_neg hascii, if_pos hdotted]
      rw [hlower]
      exact ⟨⟨by decide, fun h => absurd h hascii,
        fun _ => List.forall_mem_cons.2 ⟨by decide, List.forall_mem_singleton.2 (by decide)⟩⟩,
        List.forall_mem_cons.2 ⟨by decide, List.forall_mem_singleton.2 (by decide)⟩⟩
    · have hlower := lowerChar_of_moved? (Nat.not_lt.1 hascii) hdotted
      cases hmoved : moved? lowerRuns c with
      | none =>
          rw [hmoved, Option.getD_none] at hlower
          rw [hlower]
          refine ⟨⟨List.cons_ne_nil _ _, fun h => absurd h hascii, fun _ d hd hd' => ?_⟩, ?_⟩
          · rw [List.mem_singleton.1 hd] at hd'
            exact absurd hd' hascii
          · exact List.forall_mem_singleton.2 ⟨hc, hlower⟩
      | some d =>
          obtain ⟨run, hrun, hhas, hd⟩ := exists_run_of_moved? hmoved
          obtain ⟨hlowered, halpha⟩ := isLowered_of_run hrun hhas
          rw [← hd] at hlowered halpha
          rw [hlower, hmoved, Option.getD_some]
          refine ⟨⟨List.cons_ne_nil _ _, fun h => absurd h hascii, fun _ => ?_⟩, ?_⟩
          · exact List.forall_mem_singleton.2 halpha
          · exact List.forall_mem_singleton.2 hlowered

theorem becomes_sigma {d : Char} (hd : d = 'ς' ∨ d = 'σ') : Becomes 'Σ' [d] ∧ ∀ e ∈ [d], IsLowered e := by
  rcases hd with rfl | rfl
  · exact ⟨⟨by decide, fun h => absurd h (by decide), fun _ => List.forall_mem_singleton.2 (by decide)⟩,
      List.forall_mem_singleton.2 (by decide +kernel)⟩
  · exact ⟨⟨by decide, fun h => absurd h (by decide), fun _ => List.forall_mem_singleton.2 (by decide)⟩,
      List.forall_mem_singleton.2 (by decide +kernel)⟩

/-- Every character of a text is lowered to characters that lower-casing leaves alone. -/
theorem piecewise_lowerAfter (before s : List Char) :
    (∃ pieces, List.Forall₂ Becomes s pieces ∧ lowerAfter before s = pieces.flatten) ∧
      ∀ d ∈ lowerAfter before s, IsLowered d := by
  induction s generalizing before with
  | nil => exact ⟨⟨[], .nil, rfl⟩, nofun⟩
  | cons c rest ih =>
      obtain ⟨⟨pieces, hpieces, hrest⟩, hlowered⟩ := ih (c :: before)
      obtain ⟨piece, hpiece, hfirst, hpiece'⟩ : ∃ piece, Becomes c piece ∧
          lowerAfter before (c :: rest) = piece ++ lowerAfter (c :: before) rest ∧ ∀ d ∈ piece, IsLowered d := by
        by_cases hc : c = 'Σ'
        · subst hc
          rw [lowerAfter, if_pos rfl]
          split
          · exact ⟨_, (becomes_sigma (.inl rfl)).1, rfl, (becomes_sigma (.inl rfl)).2⟩
          · exact ⟨_, (becomes_sigma (.inr rfl)).1, rfl, (becomes_sigma (.inr rfl)).2⟩
        · rw [lowerAfter, if_neg hc]
          exact ⟨_, (becomes_lowerChar hc).1, rfl, (becomes_lowerChar hc).2⟩
      rw [hfirst]
      refine ⟨⟨piece :: pieces, .cons hpiece hpieces, ?_⟩, List.forall_mem_append.2 ⟨hpiece', hlowered⟩⟩
      rw [List.flatten_cons, hrest]

/-- Lower-casing leaves alone what is in lower case. -/
theorem lowerAfter_eq_self (before : List Char) {s : List Char} (hs : ∀ c ∈ s, IsLowered c) :
    lowerAfter before s = s := by
  induction s generalizing before with
  | nil => rfl
  | cons c rest ih =>
      obtain ⟨hsigma, hfixed⟩ := hs c List.mem_cons_self
      rw [lowerAfter, if_neg hsigma, hfixed, ih _ fun d hd => hs d (List.mem_cons_of_mem c hd)]
      rfl

theorem isLowering_lowercase : IsLowering lowercase where
  idempotent s := lowerAfter_eq_self [] (piecewise_lowerAfter [] s).2
  piecewise s := (piecewise_lowerAfter [] s).1

end Bailiwick.Unicode
