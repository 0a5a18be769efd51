import Bailiwick.Proofs.Address.Display
import Mathlib.Data.List.Nodup
import Mathlib.Data.List.Sort

/-!
What declarations come to. The literals of the two versions are apart, so a declaration is an address, a mismatch or
neither by the version that its literal belongs to. A list of declarations fails with the first one that does, and else
gives each address where it first occurs, also where it is written in several ways.
-/

namespace Bailiwick

open Text

/-! ### One declaration -/

namespace IpAddress

/-- The grammar of the version of an address. -/
def IsLiteral : IpAddress → List Char → Prop
  | .v4 ip, s => ip.IsLiteral s
  | .v6 ip, s => ip.IsLiteral s

/-- No text is a literal of both versions. -/
theorem version_eq_of_isLiteral {ip other : IpAddress} {s : List Char} (h : ip.IsLiteral s)
    (hother : other.IsLiteral s) : ip.version = other.version := by
  have hapart {v4 : IPv4} {v6 : IPv6} (hv4 : v4.IsLiteral s) (hv6 : v6.IsLiteral s) : False := by
    have hnone := IPv6.read?_eq_none_of_v4 (IPv4.read?_eq_some_iff.2 hv4)
    rw [IPv6.read?_eq_some_iff.2 hv6] at hnone
    cases hnone
  cases ip with
  | v4 ip =>
      cases other with
      | v4 => rfl
      | v6 => exact (hapart h hother).elim
  | v6 ip =>
      cases other with
      | v4 => exact (hapart hother h).elim
      | v6 => rfl

theorem read?_eq_some_iff {literal : String} {ip : IpAddress} :
    read? literal = some ip ↔ ip.IsLiteral literal.toList := by
  rw [read?]
  constructor
  · intro h
    split at h
    · next v4 hread =>
        obtain rfl := Option.some.inj h
        exact IPv4.read?_eq_some_iff.1 hread
    · obtain ⟨v6, hread, rfl⟩ := Option.map_eq_some_iff.1 h
      exact IPv6.read?_eq_some_iff.1 hread
  · intro h
    cases ip with
    | v4 ip => rw [IPv4.read?_eq_some_iff.2 h]
    | v6 ip =>
        split
        · next v4 hread =>
            have hv4 : (IpAddress.v4 v4).IsLiteral literal.toList := IPv4.read?_eq_some_iff.1 hread
            cases version_eq_of_isLiteral hv4 h
        · rw [IPv6.read?_eq_some_iff.2 h, Option.map_some]

end IpAddress

namespace DeclaredAddress

/-- What a declaration comes to, by the grammars of its own and of the other version. -/
structure Decided (declared : DeclaredAddress) : Prop where
  ok_iff : ∀ ip, declared.parse = .ok ip ↔ ip.version = declared.version ∧ ip.IsLiteral (trim declared.literal.toList)
  mismatch_iff : ∀ shown, declared.parse = .error (.ipAddressVersionMismatch shown) ↔ shown = declared.literal ∧
    ∃ ip : IpAddress, ip.version ≠ declared.version ∧ ip.IsLiteral (trim declared.literal.toList)
  invalid_iff : ∀ shown, declared.parse = .error (.invalidIpAddress shown) ↔ shown = declared.literal ∧
    ∀ ip : IpAddress, ¬ ip.IsLiteral (trim declared.literal.toList)

theorem decided (declared : DeclaredAddress) : declared.Decided := by
  obtain ⟨version, literal⟩ := declared
  have hliteral (ip : IpAddress) : ip.IsLiteral (trim literal.toList) ↔
      IpAddress.read? (String.ofList (trim literal.toList)) = some ip := by
    rw [IpAddress.read?_eq_some_iff, String.toList_ofList]
  have hparse := parse_eq version literal
  cases hread : IpAddress.read? (String.ofList (trim literal.toList)) with
  | none =>
      have hnone (ip : IpAddress) : ¬ ip.IsLiteral (trim literal.toList) := by
        rw [hliteral, hread]
        exact nofun
      have hinvalid : parse ⟨version, literal⟩ = .error (.invalidIpAddress literal) := by rw [hparse, hread]
      constructor <;> grind
  | some ip =>
      have honly (other : IpAddress) : other.IsLiteral (trim literal.toList) ↔ ip = other := by
        rw [hliteral, hread, Option.some_inj]
      rw [hread] at hparse
      by_cases hversion : version = ip.version
      · subst hversion
        have hok : parse ⟨ip.version, literal⟩ = .ok ip := hparse.trans (if_pos rfl)
        constructor <;> grind
      · have hmismatch : parse ⟨version, literal⟩ = .error (.ipAddressVersionMismatch literal) :=
          hparse.trans (if_neg hversion)
        constructor <;> grind

end DeclaredAddress

/-! ### First occurrences -/

/-- Each address of a list once, in the order in which they first occur. -/
structure FirstOccurrences (ips found : List IpAddress) : Prop where
  nodup : found.Nodup
  mem_iff : ∀ ip, ip ∈ found ↔ ip ∈ ips
  ordered : found.Pairwise fun ip later => ips.idxOf ip < ips.idxOf later

namespace FirstOccurrences

variable {ips found other : List IpAddress} {ip : IpAddress}

theorem nil : FirstOccurrences [] [] := ⟨.nil, fun _ => Iff.rfl, .nil⟩

/-- A further address is known already or comes last. -/
theorem snoc (h : FirstOccurrences ips found) (ip : IpAddress) :
    FirstOccurrences (ips ++ [ip]) (if ip ∈ found then found else found ++ [ip]) := by
  have hindex : ∀ other ∈ found, (ips ++ [ip]).idxOf other = ips.idxOf other := fun other hother =>
    List.idxOf_append_of_mem ((h.mem_iff other).1 hother)
  have hordered : found.Pairwise fun ip' later => (ips ++ [ip]).idxOf ip' < (ips ++ [ip]).idxOf later :=
    h.ordered.imp_of_mem fun hip' hlater hlt => by rwa [hindex _ hip', hindex _ hlater]
  split
  · next hip =>
      refine ⟨h.nodup, fun other => ?_, hordered⟩
      rw [h.mem_iff, List.mem_append, List.mem_singleton]
      exact (or_iff_left_of_imp fun heq => heq ▸ (h.mem_iff ip).1 hip).symm
  · next hip =>
      have hnew : ip ∉ ips := fun hmem => hip ((h.mem_iff ip).2 hmem)
      refine ⟨?_, fun other => ?_, ?_⟩
      · rw [← List.concat_eq_append]
        exact h.nodup.concat hip
      · rw [List.mem_append, List.mem_append, h.mem_iff]
      · refine List.pairwise_append.2 ⟨hordered, List.pairwise_singleton _ _, fun other hother last hlast => ?_⟩
        obtain rfl := List.mem_singleton.1 hlast
        rw [hindex other hother, List.idxOf_append_of_notMem hnew]
        exact Nat.lt_add_right _ (List.idxOf_lt_length_of_mem ((h.mem_iff other).1 hother))

/-- There is one list of first occurrences. -/
theorem unique (h : FirstOccurrences ips found) (hother : FirstOccurrences ips other) : found = other := by
  have : @Std.Irrefl IpAddress (fun ip later => ips.idxOf ip < ips.idxOf later) := ⟨fun _ => Nat.lt_irrefl _⟩
  have : @Std.Antisymm IpAddress (fun ip later => ips.idxOf ip < ips.idxOf later) :=
    ⟨fun _ _ hlt hgt => absurd hlt (Nat.lt_asymm hgt)⟩
  exact h.ordered.eq_of_mem_iff hother.ordered fun {ip} => (h.mem_iff ip).trans (hother.mem_iff ip).symm

/-- A list without repetitions is its own list of first occurrences. -/
theorem self (h : ips.Nodup) : FirstOccurrences ips ips := by
  refine ⟨h, fun _ => Iff.rfl, List.pairwise_iff_getElem.2 fun i j hi hj hlt => ?_⟩
  rwa [h.idxOf_getElem i hi, h.idxOf_getElem j hj]

end FirstOccurrences

/-! ### Lists of declarations -/

namespace DeclaredAddress

variable {ips known found : List IpAddress} {declared front back : List DeclaredAddress} {refusal : Refusal}

/-- From declarations that are read come the first occurrences of what they name, behind what is known. -/
theorem parseOnto_of_map {seen : List IpAddress} (hknown : FirstOccurrences seen known)
    (h : declared.map parse = ips.map .ok) :
    ∃ found, parseOnto known declared = .ok found ∧ FirstOccurrences (seen ++ ips) found := by
  induction declared generalizing seen known ips with
  | nil =>
      obtain rfl := List.map_eq_nil_iff.1 h.symm
      exact ⟨known, rfl, (List.append_nil seen).symm ▸ hknown⟩
  | cons first rest ih =>
      cases ips with
      | nil => cases h
      | cons ip ips =>
          obtain ⟨hfirst, hrest⟩ := List.cons.inj h
          obtain ⟨found, hfound, hoccurrences⟩ := ih (hknown.snoc ip) hrest
          rw [List.append_assoc] at hoccurrences
          refine ⟨found, ?_, hoccurrences⟩
          rw [parseOnto, hfirst]
          exact hfound

theorem parseAll_eq_error_iff : parseAll declared = .error refusal ↔ declared.findSome? objection? = some refusal := by
  constructor
  · intro h
    cases hfirst : declared.findSome? objection? with
    | none =>
        obtain ⟨found, hfound⟩ := parseAll_of_none hfirst
        rw [hfound] at h
        cases h
    | some other =>
        rw [parseAll_of_objection hfirst] at h
        rw [Except.error.inj h]
  · exact parseAll_of_objection

theorem exists_named (h : ∀ first ∈ declared, objection? first = none) :
    ∃ ips : List IpAddress, declared.map parse = ips.map .ok := by
  induction declared with
  | nil => exact ⟨[], rfl⟩
  | cons first rest ih =>
      obtain ⟨hfirst, hrest⟩ := List.forall_mem_cons.1 h
      obtain ⟨ip, hip⟩ := objection?_eq_none_iff.1 hfirst
      obtain ⟨ips, hips⟩ := ih hrest
      exact ⟨ip :: ips, by rw [List.map_cons, List.map_cons, hip, hips]⟩

theorem parseAll_eq_ok_iff :
    parseAll declared = .ok found ↔ ∃ ips, declared.map parse = ips.map .ok ∧ FirstOccurrences ips found := by
  constructor
  · intro h
    have hnone : declared.findSome? objection? = none := by
      refine Option.eq_none_iff_forall_ne_some.2 fun refusal hrefusal => ?_
      rw [parseAll_of_objection hrefusal] at h
      cases h
    obtain ⟨ips, hips⟩ := exists_named (List.findSome?_eq_none_iff.1 hnone)
    obtain ⟨known, hknown, hoccurrences⟩ := parseOnto_of_map .nil hips
    obtain rfl := Except.ok.inj (h.symm.trans hknown)
    exact ⟨ips, hips, hoccurrences⟩
  · rintro ⟨ips, hips, hoccurrences⟩
    obtain ⟨known, hknown, hother⟩ := parseOnto_of_map .nil hips
    rw [hoccurrences.unique hother]
    exact hknown

/-- The declaration of an address by its text. -/
def ofAddress (ip : IpAddress) : DeclaredAddress := ⟨ip.version, ip.text⟩

theorem parse_ofAddress (ip : IpAddress) : (ofAddress ip).parse = .ok ip := by
  rw [ofAddress, parse_eq, trim_of_not_blank IpAddress.not_blank_of_mem_text, String.ofList_toList, IpAddress.read?_text]
  exact if_pos rfl

theorem parseOnto_append : parseOnto known (front ++ back) =
    (parseOnto known front).bind fun known => parseOnto known back := by
  induction front generalizing known with
  | nil => rfl
  | cons first rest ih =>
      rw [List.cons_append, parseOnto, parseOnto]
      cases first.parse with
      | error refusal => rfl
      | ok ip => exact ih

/-- A declaration that comes to the same as an earlier one adds nothing. -/
theorem parseAll_append_cons {first again : DeclaredAddress} (hfirst : first ∈ front)
    (hsame : again.parse = first.parse) : parseAll (front ++ again :: back) = parseAll (front ++ back) := by
  rw [parseAll, parseAll, parseOnto_append, parseOnto_append]
  cases hfront : parseOnto [] front with
  | error refusal => rfl
  | ok known =>
      obtain ⟨ips, hips, hoccurrences⟩ := parseAll_eq_ok_iff.1 hfront
      obtain ⟨ip, hip, hparse⟩ := List.mem_map.1 (hips ▸ List.mem_map_of_mem hfirst)
      change parseOnto known (again :: back) = parseOnto known back
      rw [parseOnto, hsame, ← hparse]
      exact congrArg (parseOnto · back) (if_pos ((hoccurrences.mem_iff ip).2 hip))

/-- What a list of declarations comes to. -/
structure Gathered (declared : List DeclaredAddress) : Prop where
  /-- It fails with the first declaration that does. -/
  error_iff : ∀ refusal, parseAll declared = .error refusal ↔ ∃ front first back, declared = front ++ first :: back ∧
    (∀ earlier ∈ front, ∃ ip, earlier.parse = .ok ip) ∧ first.parse = .error refusal
  /-- Where none fails it gives each address that is named, where it first occurs. -/
  ok_iff : ∀ found, parseAll declared = .ok found ↔
    ∃ ips, declared.map parse = ips.map .ok ∧ FirstOccurrences ips found
  /-- What is given is given again when it is declared by its texts. -/
  again : ∀ found, parseAll declared = .ok found → parseAll (found.map ofAddress) = .ok found
  /-- A declaration that comes to the same as an earlier one, however it is written, adds nothing. -/
  merged : ∀ front first again back, declared = front ++ again :: back → first ∈ front → again.parse = first.parse →
    parseAll declared = parseAll (front ++ back)

theorem gathered (declared : List DeclaredAddress) : Gathered declared where
  error_iff refusal := by
    simp only [parseAll_eq_error_iff, List.findSome?_eq_some_iff, objection?_eq_none_iff, objection?_eq_some_iff,
      and_comm (a := _ = Except.error refusal)]
  ok_iff _ := parseAll_eq_ok_iff
  again found h := by
    obtain ⟨ips, -, hoccurrences⟩ := parseAll_eq_ok_iff.1 h
    refine parseAll_eq_ok_iff.2 ⟨found, ?_, .self hoccurrences.nodup⟩
    rw [List.map_map]
    exact List.map_congr_left fun ip _ => parse_ofAddress ip
  merged front first again back h hfirst hsame := h ▸ parseAll_append_cons hfirst hsame

/-- The literals of the two versions are apart, so by the grammar that its literal is in a declaration is an address, a
mismatch or invalid. A list of declarations fails with the first one that does, or gives each address where it first
occurs, which declared by their texts give the same list again. -/
theorem parse_sharp : (∀ s (v4 : IPv4) (v6 : IPv6), ¬ (v4.IsLiteral s ∧ v6.IsLiteral s)) ∧
    (∀ declared : DeclaredAddress, declared.Decided) ∧ ∀ declared : List DeclaredAddress, Gathered declared := by
  refine ⟨fun s v4 v6 ⟨hv4, hv6⟩ => ?_, decided, gathered⟩
  have hversion : (IpAddress.v4 v4).version = (IpAddress.v6 v6).version :=
    IpAddress.version_eq_of_isLiteral hv4 hv6
  cases hversion

end DeclaredAddress

end Bailiwick
