import Bailiwick.Proofs.Create.Outcome

/-!
Refusals on formal grounds. The login, the name, its depth and the addresses are checked on the request and the place
of its name; what these checks refuse says nothing of the rows that are stored.
-/

namespace Bailiwick

/-- Whether a refusal blames the request alone, and neither a row that is stored nor the surroundings. -/
def Refusal.isFormal : Refusal → Bool
  | .superordinateDomainDoesNotExist _ => false
  | .superordinateDomainInPendingDelete _ => false
  | .alreadyExistsForThisClient _ => false
  | .createContention _ => false
  | .fault _ => false
  | _ => true

theorem Refusal.isTransient_of_isFormal {refusal : Refusal} (h : refusal.isFormal = true) :
    refusal.isTransient = false := by
  cases refusal with
  | fault _ => cases h
  | _ => rfl

namespace Create

/-- A result that is refused on formal grounds, if it is refused. -/
def Formal {α : Type} (result : Except Refusal α) : Prop :=
  ∀ refusal, result = .error refusal → refusal.isFormal = true

section Formal

variable {α β : Type}

theorem formal_ok (a : α) : Formal (.ok a) := nofun

theorem formal_error {refusal : Refusal} (h : refusal.isFormal = true) :
    Formal (.error refusal : Except Refusal α) := by
  intro other hsame
  rw [← Except.error.inj hsame]
  exact h

theorem Formal.bind {x : Except Refusal α} {f : α → Except Refusal β} (hx : Formal x) (hf : ∀ a, Formal (f a)) :
    Formal (x >>= f) := by
  cases x with
  | ok a => exact hf a
  | error refusal => exact formal_error (hx refusal rfl)

end Formal

theorem formal_parse (raw : String) : Formal (HostName.parse raw) := by
  have hcheck : Formal (HostName.check raw.toList) := by
    intro refusal h
    rw [HostName.check, HostName.checkBy] at h
    simp only at h
    repeat' split at h
    all_goals cases h
    all_goals rfl
  intro refusal h
  rw [HostName.parse] at h
  split at h
  · cases h
  · next hrefused =>
      cases h
      exact hcheck refusal hrefused

theorem formal_checkDepth (name : HostName) (publicSuffix managedZone : Option String) :
    Formal (name.checkDepth publicSuffix managedZone) := by
  rw [HostName.checkDepth]
  split
  · exact formal_error rfl
  · exact formal_ok ()

theorem formal_parseAll (declared : List DeclaredAddress) : Formal (DeclaredAddress.parseAll declared) := by
  intro refusal h
  cases hobjection : declared.findSome? DeclaredAddress.objection? with
  | none =>
      obtain ⟨found, hfound⟩ := DeclaredAddress.parseAll_of_none hobjection
      cases hfound.symm.trans h
  | some first =>
      obtain rfl := Except.error.inj ((DeclaredAddress.parseAll_of_objection hobjection).symm.trans h)
      obtain ⟨one, -, hone⟩ := List.exists_of_findSome?_eq_some hobjection
      have hformal : Formal one.parse := by
        rw [DeclaredAddress.parse]
        split <;> first | exact formal_ok _ | exact formal_error rfl
      rw [DeclaredAddress.objection?] at hone
      split at hone
      · cases hone
      · next hrefused => exact hformal _ (hrefused.trans (congrArg _ (Option.some.inj hone)))

theorem formal_resolveAddresses (placement : Placement) (declared : List DeclaredAddress) :
    Formal (placement.resolveAddresses declared) := by
  apply (formal_parseAll declared).bind
  intro addresses
  cases hempty : addresses.isEmpty with
  | true =>
      cases placement with
      | external => exact formal_ok addresses
      | subordinate domain => exact formal_error rfl
  | false =>
      cases placement with
      | external => exact formal_error rfl
      | subordinate domain => exact formal_ok addresses

end Create

end Bailiwick
