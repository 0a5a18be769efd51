import Bailiwick.Create.Flow
import Bailiwick.Proofs.Transaction.Attempts

/-!
What the transaction of a create comes to on one store: a contention where the name is held, a refusal
where the domain does not allow another host, and else the rows of the new host.
-/

namespace Bailiwick.Create

/-- The writes for a new host, with a link where it is subordinate to a domain. -/
def Created.writes (created : Created) : List Store.Write :=
  [.insertHost created.host, .appendHistory created.history] ++
    (created.host.superordinate.map fun key => Store.Write.linkHost key created.host.name.text).toList

/-- The key of the domain that a host belongs to, on one store and if that domain may gain another host. -/
def superordinateOn (s : Store) (domainName : Option String) (now : Instant) :
    Except Refusal (Option DomainKey) :=
  match domainName with
  | none => .ok none
  | some domainName =>
    (checkSuperordinate domainName (s.activeDomain domainName now)).map fun domain => some domain.key

variable (name : HostName) (addresses : List IpAddress) (client : ClientId) (now : Instant)
  (correlation : Uuid) (ids : FreshIds)

/-- The rows of a create, or why it gets none, on one store. -/
def decideOn (s : Store) (domainName : Option String) : Except Refusal Created :=
  match s.activeHost name.text now with
  | some _ => .error (.createContention name.text)
  | none => (superordinateOn s domainName now).map fun key =>
    Created.new ids name addresses key client now correlation

/-- The end of a body that has found no objection. -/
def insertion (superordinate : Option DomainKey) : Body Created :=
  let created := Created.new ids name addresses superordinate client now correlation
  created.writes.foldr Body.write (.done (.ok created))

/-- The part of a body that depends on the domain loaded. -/
def insertionUnder (domainName : String) (loaded : Option Domain) : Body Created :=
  match checkSuperordinate domainName loaded with
  | .error refusal => .done (.error refusal)
  | .ok domain => insertion name addresses client now correlation ids (some domain.key)

/-- The part of a body after the name was found free. -/
def insertionFor : Option String → Body Created
  | none => insertion name addresses client now correlation ids none
  | some domainName =>
    .loadDomain domainName now (insertionUnder name addresses client now correlation ids domainName)

theorem body_eq (domainName : Option String) : body name addresses domainName client now correlation ids =
    .loadHost name now fun
      | some _ => .done (.error (.createContention name.text))
      | none => insertionFor name addresses client now correlation ids domainName := by
  change Body.loadHost name now _ = _
  congr 1
  funext holder
  cases holder with
  | some host => rfl
  | none =>
      cases domainName with
      | none => rfl
      | some domainName =>
          change Body.loadDomain domainName now _ = Body.loadDomain domainName now _
          congr 1
          funext loaded
          change (some <$> Body.check (checkSuperordinate domainName loaded)).bind _ = _
          rw [insertionUnder]
          cases checkSuperordinate domainName loaded with
          | error refusal => rfl
          | ok domain => rfl

/-- Of a domain a create uses the key and whether it is in pending delete. -/
theorem insertionUnder_congr {domainName : String} {found other : Option Domain}
    (h : found.map Domain.bare = other.map Domain.bare) :
    insertionUnder name addresses client now correlation ids domainName found
      = insertionUnder name addresses client now correlation ids domainName other := by
  cases found with
  | none =>
      rw [Option.map_eq_none_iff.1 h.symm]
  | some d =>
      obtain ⟨e, rfl, hbare⟩ := Option.map_eq_some_iff.1 h.symm
      have hpending : e.isPendingDelete = d.isPendingDelete := by
        change e.bare.isPendingDelete = d.bare.isPendingDelete
        rw [hbare]
      have hkey : e.key = d.key := by
        change e.bare.key = d.bare.key
        rw [hbare]
      rw [insertionUnder, insertionUnder, checkSuperordinate, checkSuperordinate]
      simp only [hpending]
      by_cases h : d.isPendingDelete = true
      · simp only [if_pos h, throw, throwThe, MonadExceptOf.throw]
      · simp only [if_neg h, pure, Except.pure, hkey]

theorem insertion_overlooksHosts (superordinate : Option DomainKey) :
    (insertion name addresses client now correlation ids superordinate).OverlooksHosts := by
  cases superordinate <;> trivial

theorem body_overlooksHosts (domainName : Option String) :
    (body name addresses domainName client now correlation ids).OverlooksHosts := by
  rw [body_eq]
  intro holder
  cases holder with
  | some host => trivial
  | none =>
      cases domainName with
      | none => exact insertion_overlooksHosts name addresses client now correlation ids none
      | some domainName =>
          refine ⟨fun loaded => ?_, fun found other h => ?_⟩
          · rw [insertionUnder]
            cases checkSuperordinate domainName loaded with
            | error refusal => trivial
            | ok domain => exact insertion_overlooksHosts name addresses client now correlation ids _
          · exact insertionUnder_congr name addresses client now correlation ids h

theorem evaluate_insertion (s : Store) (superordinate : Option DomainKey) :
    (insertion name addresses client now correlation ids superordinate).evaluate s []
      = (.ok (Created.new ids name addresses superordinate client now correlation),
        (Created.new ids name addresses superordinate client now correlation).writes) := by
  cases superordinate <;> rfl

/-- What the transaction of a create comes to on one store: the decision, and the rows that go with it. -/
theorem evaluate_body (domainName : Option String) (s : Store) :
    (body name addresses domainName client now correlation ids).evaluate s [] =
      match decideOn name addresses client now correlation ids s domainName with
      | .error refusal => (.error refusal, [])
      | .ok created => (.ok created, created.writes) := by
  rw [body_eq, Body.evaluate, decideOn]
  change Body.evaluate s [] (match s.activeHost name.text now with | some _ => _ | none => _) = _
  cases s.activeHost name.text now with
  | some host => rfl
  | none =>
      cases domainName with
      | none => exact evaluate_insertion name addresses client now correlation ids s none
      | some domainName =>
          simp only [insertionFor, Body.evaluate, insertionUnder, superordinateOn]
          cases checkSuperordinate domainName (s.activeDomain domainName now) with
          | error refusal => rfl
          | ok domain => exact evaluate_insertion name addresses client now correlation ids s (some domain.key)

end Bailiwick.Create
