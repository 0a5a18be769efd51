import Bailiwick.Address.Declared
import Bailiwick.Proofs.Address.V6

/-!
Addresses of either version, and reading a list of declarations: the first declaration at fault decides, and
without one the result is empty only where nothing is declared.
-/

namespace Bailiwick

/-- An address of either version is read back from its text. -/
theorem IpAddress.read?_text (ip : IpAddress) : read? ip.text = some ip := by
  rw [read?, text.eq_def]
  cases ip with
  | v4 ip => simp only [String.toList_ofList, IPv4.read?_render]
  | v6 ip =>
      have hnone : IPv4.read? ip.render = none :=
        IPv4.read?_eq_none_of_mem ip.colon_mem_render (by decide) (by decide)
      simp only [String.toList_ofList, hnone, IPv6.read?_render, Option.map_some]

namespace DeclaredAddress

/-- What is wrong with a declaration, if anything. -/
def objection? (declared : DeclaredAddress) : Option Refusal :=
  match declared.parse with
  | .ok _ => none
  | .error refusal => some refusal

theorem objection?_eq_none_iff {first : DeclaredAddress} : objection? first = none ↔ ∃ ip, first.parse = .ok ip := by
  rw [objection?]
  cases first.parse <;> simp

theorem objection?_eq_some_iff {first : DeclaredAddress} {refusal : Refusal} :
    objection? first = some refusal ↔ first.parse = .error refusal := by
  rw [objection?]
  cases first.parse <;> simp

variable {known : List IpAddress} {declared : List DeclaredAddress}

theorem parseOnto_of_objection {refusal : Refusal} (h : declared.findSome? objection? = some refusal) :
    parseOnto known declared = .error refusal := by
  induction declared generalizing known with
  | nil => cases h
  | cons first rest ih =>
      rw [List.findSome?_cons] at h
      rw [parseOnto]
      cases hfirst : first.parse with
      | error refusal' =>
          rw [objection?, hfirst] at h
          obtain rfl := Option.some.inj h
          rfl
      | ok ip =>
          rw [objection?, hfirst] at h
          exact ih h

theorem parseOnto_of_none (h : declared.findSome? objection? = none) :
    ∃ found, parseOnto known declared = .ok found := by
  induction declared generalizing known with
  | nil => exact ⟨known, rfl⟩
  | cons first rest ih =>
      rw [List.findSome?_cons] at h
      rw [parseOnto]
      cases hfirst : first.parse with
      | error refusal =>
          rw [objection?, hfirst] at h
          cases h
      | ok ip =>
          rw [objection?, hfirst] at h
          exact ih h

/-- Every declaration that is read leaves an address, its own or the same one declared before. -/
theorem parseOnto_eq_nil_iff {found : List IpAddress} (h : parseOnto known declared = .ok found) :
    found = [] ↔ known = [] ∧ declared = [] := by
  induction declared generalizing known with
  | nil =>
      obtain rfl := Except.ok.inj h
      simp
  | cons first rest ih =>
      rw [parseOnto] at h
      cases hfirst : first.parse with
      | error refusal =>
          rw [hfirst] at h
          cases h
      | ok ip =>
          rw [hfirst] at h
          rw [ih h]
          by_cases hip : ip ∈ known
          · have hne : known ≠ [] := List.ne_nil_of_mem hip
            simp [hip, hne]
          · simp [hip]

/-- The first declaration at fault is what is wrong with a list of declarations. -/
theorem parseAll_of_objection {refusal : Refusal} (h : declared.findSome? objection? = some refusal) :
    parseAll declared = .error refusal :=
  parseOnto_of_objection h

theorem parseAll_of_none (h : declared.findSome? objection? = none) : ∃ found, parseAll declared = .ok found :=
  parseOnto_of_none h

/-- Declarations give addresses exactly where there are declarations. -/
theorem isEmpty_of_parseAll {found : List IpAddress} (h : parseAll declared = .ok found) :
    found.isEmpty = declared.isEmpty := by
  have hnil := parseOnto_eq_nil_iff h
  rw [Bool.eq_iff_iff, List.isEmpty_iff, List.isEmpty_iff, hnil]
  simp

end DeclaredAddress

end Bailiwick
