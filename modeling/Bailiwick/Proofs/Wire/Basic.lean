import Bailiwick.Proofs.Address.Declared
import Bailiwick.Proofs.HostName.Checks
import Bailiwick.Proofs.Instant.Text
import Bailiwick.Proofs.SortedSet
import Bailiwick.Proofs.Uuid
import Bailiwick.Wire.Basic

/-!
Values that are encoded are decoded to the same value: texts with a grammar because they are read back, sets because
their elements are in order, lists and optional values because their parts are decoded.
-/

namespace Bailiwick

namespace Wire

open Wire (encode decode)

variable {α : Type} [Wire α]

/-- A value that is decoded from what it is encoded as. -/
def Faithful (a : α) : Prop := decode (encode a) = .ok a

theorem faithful_string (s : String) : Faithful s := rfl

theorem faithful_bool (b : Bool) : Faithful b := rfl

theorem faithful_uint32 (n : UInt32) : Faithful n := by
  have hrange : (0 : Int) ≤ n.toNat ∧ (n.toNat : Int) < UInt32.size :=
    ⟨Int.natCast_nonneg _, Int.ofNat_lt.2 n.toNat_lt⟩
  have hback : UInt32.ofNat (n.toNat : Int).toNat = n := UInt32.ofNat_toNat
  change (if _ then Except.ok (UInt32.ofNat (n.toNat : Int).toNat) else _) = _
  rw [if_pos hrange, hback]

theorem faithful_uuid (id : Uuid) : Faithful id := by
  change decodeText _ Uuid.read? (.str id.text) = _
  rw [decodeText, Uuid.read?_text]

theorem faithful_instant {i : Instant} (h : i.InFourDigits) : Faithful i := by
  change decodeText _ Instant.read? (.str i.text) = _
  rw [decodeText, i.read?_text h]

theorem faithful_ipAddress (ip : IpAddress) : Faithful ip := by
  change decodeText _ IpAddress.read? (.str ip.text) = _
  rw [decodeText, ip.read?_text]

/-- A name is decoded exactly from the texts that are accepted. -/
theorem decode_hostName_eq_ok_iff {value : Json} {name : HostName} :
    decode value = .ok name ↔ ∃ s, value = .str s ∧ HostName.parse s = .ok name := by
  cases value with
  | str s =>
      cases hparse : HostName.parse s with
      | ok parsed =>
          have hdecode : decode (.str s) = (.ok parsed : Except DecodeError HostName) := by
            change Except.bind (Except.ok s) _ = _
            rw [Except.bind, HostName.ofString, hparse]
          constructor
          · intro h
            obtain rfl := Except.ok.inj (hdecode.symm.trans h)
            exact ⟨s, rfl, hparse⟩
          · rintro ⟨t, ht, hname⟩
            obtain rfl := Json.str.inj ht
            rw [hdecode, Except.ok.inj (hparse.symm.trans hname)]
      | error refusal =>
          have hdecode : (decode (.str s) : Except DecodeError HostName) = .error (.refusedName refusal) := by
            change Except.bind (Except.ok s) _ = _
            rw [Except.bind, HostName.ofString, hparse]
          constructor
          · intro h
            cases hdecode.symm.trans h
          · rintro ⟨t, ht, hname⟩
            obtain rfl := Json.str.inj ht
            cases hparse.symm.trans hname
  | _ =>
      constructor
      · intro h
        cases h
      · rintro ⟨s, hs, -⟩
        cases hs

theorem faithful_hostName (name : HostName) : Faithful name :=
  decode_hostName_eq_ok_iff.2 ⟨name.text, rfl, name.parse_text⟩

theorem faithful_ipVersion (version : IpVersion) : Faithful version := by cases version <;> rfl

theorem faithful_statusValue (status : StatusValue) : Faithful status := by cases status <;> rfl

theorem faithful_list {items : List α} (h : ∀ a ∈ items, Faithful a) : Faithful items := by
  change (items.map encode).mapM decode = .ok items
  induction items with
  | nil => rfl
  | cons a rest ih =>
      have ha : decode (encode a) = .ok a := h a List.mem_cons_self
      rw [List.map_cons, List.mapM_cons, ha, ih fun b hb => h b (List.mem_cons_of_mem a hb)]
      rfl

theorem faithful_sortedSet [SortOrder α] {s : SortedSet α} (h : ∀ a ∈ s.toList, Faithful a) : Faithful s := by
  have hlist : decode (encode s.toList) = .ok s.toList := faithful_list h
  change SortedSet.ofList <$> decode (encode s.toList) = _
  rw [hlist]
  exact congrArg Except.ok s.ofList_toList

theorem decode_option_of_ne_null {value : Json} (h : value ≠ .null) :
    (decode value : Except DecodeError (Option α)) = some <$> decode value := by
  cases value with
  | null => exact absurd rfl h
  | _ => rfl

theorem faithful_option {o : Option α} (hnull : ∀ a : α, encode a ≠ .null) (h : ∀ a ∈ o, Faithful a) :
    Faithful o := by
  cases o with
  | none => rfl
  | some a =>
      have ha : decode (encode a) = .ok a := h a rfl
      change decode (encode a) = _
      rw [decode_option_of_ne_null (hnull a), ha]
      rfl

end Wire

end Bailiwick
