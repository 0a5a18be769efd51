import Bailiwick.Proofs.Address.Declared
import Bailiwick.Proofs.Create.Verdict
import Bailiwick.Proofs.HostName.Suffixes

/-!
The outcome of a create that nobody disturbs. Everything that may be wrong with a request on one store is said
on its own; the request is refused for the first of these objections in a fixed order, and succeeds when there
is none.
-/

namespace Bailiwick

/-- The managed zone that a name is under: of its proper suffixes that are managed one with the most labels. -/
def NearestZone (s : Store) (name : HostName) : Option String → Prop
  | none => ∀ suffix ∈ name.properSuffixes, s.isManaged suffix = false
  | some zone => zone ∈ name.properSuffixes ∧ s.isManaged zone = true ∧
      ∀ other ∈ name.properSuffixes, s.isManaged other = true →
        HostName.countLabels other ≤ HostName.countLabels zone

def Store.zoneOf (s : Store) (name : HostName) : Option String := name.properSuffixes.find? s.isManaged

theorem nearestZone_zoneOf (s : Store) (name : HostName) : NearestZone s name (s.zoneOf name) := by
  cases hzone : s.zoneOf name with
  | none => exact fun suffix hsuffix => Bool.eq_false_iff.2 (List.find?_eq_none.1 hzone suffix hsuffix)
  | some zone =>
      refine ⟨List.mem_of_find?_eq_some hzone, List.find?_some hzone, fun other hother hmanaged => ?_⟩
      exact HostName.countLabels_le_of_find? hzone hother hmanaged

/-- The active host of a name is the last of its rows that are active. -/
theorem Store.activeHost_eq_getLast? (s : Store) (name : String) (now : Instant) :
    s.activeHost name now = ((s.hostsNamed name).filter (·.isActiveAt now)).getLast? := by
  rw [activeHost, List.getLast?_eq_head?_reverse, ← List.filter_reverse, List.head?_filter]

namespace Create

/-- A result fails with the objection that is there, and succeeds where there is none. -/
def Settles {α : Type} : Option Refusal → Except Refusal α → Prop
  | some refusal, result => result = .error refusal
  | none, result => ∃ value, result = .ok value

/-- Checks in their order settle objections in that order. -/
theorem Settles.bind {α β : Type} {first rest : Option Refusal} {x : Except Refusal α} {f : α → Except Refusal β}
    (hx : Settles first x) (hf : ∀ a, x = .ok a → Settles rest (f a)) : Settles (first <|> rest) (x >>= f) := by
  cases first with
  | some refusal =>
      rw [Settles] at hx
      rw [hx]
      rfl
  | none =>
      obtain ⟨a, ha⟩ := hx
      have hrest := hf a ha
      rw [ha]
      exact hrest

theorem Settles.map {α β : Type} {objection : Option Refusal} {x : Except Refusal α} (h : Settles objection x)
    (f : α → β) : Settles objection (x.map f) := by
  cases objection with
  | some refusal =>
      rw [Settles] at h
      rw [h]
      rfl
  | none =>
      obtain ⟨a, ha⟩ := h
      exact ⟨f a, by rw [ha]; rfl⟩

namespace Request

variable (q : Request) (s : Store) (client : ClientId) (name : HostName) (zone : Option String)

/-- A name needs two labels below the longest of its public suffix, its managed zone and its last label. -/
def shallow? : Option Refusal :=
  let publicLabels := (q.service.rules.longest name).elim 0 HostName.countLabels
  let zoneLabels := zone.elim 0 HostName.countLabels
  if name.labelCount < max 1 (max publicLabels zoneLabels) + 2 then some .hostNameTooShallow else none

/-- A name under a zone needs an active domain with one label more than the zone. -/
def orphan? : Option Refusal :=
  zone.bind fun zone =>
    match s.activeDomain (superordinateName name zone) q.context.now with
    | none => some (.superordinateDomainDoesNotExist (superordinateName name zone))
    | some _ => none

/-- Every declared address has to be in the grammar of its version. -/
def misread? : Option Refusal := q.command.addresses.findSome? DeclaredAddress.objection?

/-- A host under a zone needs addresses, any other host must not have them. -/
def misaddressed? : Option Refusal :=
  match zone, q.command.addresses with
  | some _, [] => some .subordinateHostMustHaveIp
  | none, _ :: _ => some .unexpectedExternalHostIp
  | _, _ => none

/-- No row of the name may be active; the newest that is tells who holds the name. -/
def held? : Option Refusal :=
  ((s.hostsNamed name.text).filter (·.isActiveAt q.context.now)).getLast?.map fun host =>
    if host.sponsor = client then .alreadyExistsForThisClient name.text else .createContention name.text

/-- The domain of a name under a zone must not be in pending delete. -/
def purging? : Option Refusal :=
  zone.bind fun zone =>
    (s.activeDomain (superordinateName name zone) q.context.now).bind fun domain =>
      if domain.isPendingDelete then some (.superordinateDomainInPendingDelete (superordinateName name zone))
      else none

/-- The first objection to a request on one store. -/
def objection? : Option Refusal :=
  match q.context.client with
  | none => some .notLoggedIn
  | some client =>
    match HostName.parse q.command.hostName with
    | .error refusal => some refusal
    | .ok name =>
      let zone := s.zoneOf name
      q.shallow? name zone <|> q.orphan? s name zone <|> (q.misread? <|> q.misaddressed? zone) <|>
        q.held? s client name <|> q.purging? s name zone

end Request

variable {q : Request} {s : Store} {client : ClientId} {name : HostName} {zone : Option String}
  {placement : Placement}

theorem settles_checkDepth :
    Settles (q.shallow? name zone) (name.checkDepth (q.service.rules.longest name) zone) := by
  have hlabels (suffix : Option String) :
      (suffix.map HostName.countLabels).getD 0 = suffix.elim 0 HostName.countLabels := by
    cases suffix <;> rfl
  rw [Request.shallow?, HostName.checkDepth, HostName.effectiveSuffixLabels, hlabels, hlabels,
    HostName.minLabelsBelowSuffix]
  split
  · rfl
  · exact ⟨(), rfl⟩

theorem settles_placeOn : Settles (q.orphan? s name zone) (placeOn s name zone q.context.now) := by
  cases zone with
  | none => exact ⟨.external, rfl⟩
  | some zone =>
      rw [placeOn, Request.orphan?, Option.bind_some]
      cases s.activeDomain (superordinateName name zone) q.context.now with
      | none => rfl
      | some domain => exact ⟨.subordinate domain, rfl⟩

/-- Only a host under a zone is placed under a domain, which is the one that the store has. -/
theorem placeOn_eq_ok (h : placeOn s name zone q.context.now = .ok placement) :
    (zone = none ∧ placement = .external) ∨ ∃ z domain, zone = some z ∧ placement = .subordinate domain ∧
      s.activeDomain (superordinateName name z) q.context.now = some domain := by
  cases zone with
  | none => exact .inl ⟨rfl, (Except.ok.inj h).symm⟩
  | some zone =>
      rw [placeOn] at h
      cases hfound : s.activeDomain (superordinateName name zone) q.context.now with
      | none =>
          rw [hfound] at h
          cases h
      | some domain =>
          rw [hfound] at h
          exact .inr ⟨zone, domain, rfl, (Except.ok.inj h).symm, hfound⟩

theorem settles_resolveAddresses (hplace : placeOn s name zone q.context.now = .ok placement) :
    Settles (q.misread? <|> q.misaddressed? zone) (placement.resolveAddresses q.command.addresses) := by
  rw [Placement.resolveAddresses]
  have hread : Settles q.misread? (DeclaredAddress.parseAll q.command.addresses) := by
    cases hfault : q.misread? with
    | some refusal => exact DeclaredAddress.parseAll_of_objection hfault
    | none => exact DeclaredAddress.parseAll_of_none hfault
  apply hread.bind
  intro found hfound
  rw [DeclaredAddress.isEmpty_of_parseAll hfound]
  unfold Request.misaddressed?
  rcases placeOn_eq_ok hplace with ⟨rfl, rfl⟩ | ⟨z, domain, rfl, rfl, -⟩
  · cases q.command.addresses with
    | nil => exact ⟨found, rfl⟩
    | cons first rest => rfl
  · cases q.command.addresses with
    | nil => rfl
    | cons first rest => exact ⟨found, rfl⟩

theorem settles_checkUnique :
    Settles (q.held? s client name)
      (checkUnique (s.activeHost name.text q.context.now) name client .advisory) := by
  rw [Request.held?, ← Store.activeHost_eq_getLast?]
  cases s.activeHost name.text q.context.now with
  | none => exact ⟨(), rfl⟩
  | some host => exact checkUnique_advisory host name client

theorem eq_none_of_checkUnique {holder : Option Host} {pass : Pass}
    (h : checkUnique holder name client pass = .ok ()) : holder = none := by
  cases holder with
  | none => rfl
  | some host =>
      rw [checkUnique] at h
      split at h <;> cases h

theorem settles_decideOn (hs : s.Orderly) {addresses : List IpAddress}
    (hplace : placeOn s name zone q.context.now = .ok placement)
    (hfree : s.activeHost name.text q.context.now = none) :
    Settles (q.purging? s name zone)
      (decideOn name addresses client q.context.now q.context.correlation (q.ids 1) s
        (placement.superordinate?.map Domain.name)) := by
  rw [decideOn, hfree]
  apply Settles.map
  rcases placeOn_eq_ok hplace with ⟨rfl, rfl⟩ | ⟨z, domain, rfl, rfl, hfound⟩
  · exact ⟨none, rfl⟩
  · have hname : domain.name = superordinateName name z := hs.name_of_activeDomain hfound
    simp only [Placement.superordinate?, Option.map_some, superordinateOn, Request.purging?, Option.bind_some,
      hname, hfound]
    apply Settles.map
    rw [checkSuperordinate]
    split
    · rfl
    · exact ⟨domain, rfl⟩

/-- The verdict on a request settles its first objection. -/
theorem settles_verdict (hs : s.Orderly) (q : Request) : Settles (q.objection? s) (q.verdict s) := by
  rw [Request.objection?, Request.verdict]
  cases q.context.client with
  | none => rfl
  | some client =>
      cases hname : HostName.parse q.command.hostName with
      | error refusal => rfl
      | ok name =>
          apply settles_checkDepth.bind
          intro _ _
          apply settles_placeOn.bind
          intro placement hplace
          apply (settles_resolveAddresses hplace).bind
          intro addresses _
          apply settles_checkUnique.bind
          intro _ hfree
          exact settles_decideOn hs hplace (eq_none_of_checkUnique hfree)

/-- A create that nobody disturbs is refused for the first objection to it, and succeeds where there is none. -/
theorem createHost_outcome {w : World} (hbuilt : w.store.Built) {surroundings : Surroundings}
    (hreach : ∀ call, surroundings.outage call = none) (q : Request) :
    (∀ name, NearestZone w.store name (w.store.zoneOf name)) ∧
      Settles (q.objection? w.store)
        ((createHost q.service q.context q.ids q.command).run surroundings w).2 := by
  refine ⟨nearestZone_zoneOf w.store, ?_⟩
  have hrun := (run_work hreach q w).1
  rw [Request.work] at hrun
  rw [hrun, Request.answerOn]
  exact (settles_verdict hbuilt.orderly q).map _

theorem createHost_outcome_glueless :
    delegated.Built ∧ (∀ call, Surroundings.calm.outage call = none) ∧
      let q := glued ⟨"TheRegistrar"⟩ []
      ((createHost q.service q.context q.ids q.command).run .calm { store := delegated }).2
        = .error .subordinateHostMustHaveIp := by
  have hreach : ∀ call, Surroundings.calm.outage call = none := fun _ => rfl
  refine ⟨built_delegated, hreach, ?_⟩
  intro q
  have hsettles := (createHost_outcome (w := { store := delegated }) built_delegated hreach q).2
  have hobjection : q.objection? delegated = some .subordinateHostMustHaveIp := by decide +kernel
  rw [hobjection] at hsettles
  exact hsettles

end Create

end Bailiwick
