import Bailiwick.Proofs.Wire.Basic
import Bailiwick.Wire.Rows

/-!
Rows, commands and responses are decoded from what they are encoded as, when their times are in the years that are
written in four digits. The members of an encoded record have distinct names, so that each field finds its own.
-/

namespace Bailiwick

/-- The times that a domain holds. -/
def Domain.times (domain : Domain) : List Instant := domain.creationTime :: domain.deletionTime.toList

/-- The times that a host holds. -/
def Host.times (host : Host) : List Instant :=
  host.creationTime :: (host.deletionTime.toList ++ host.lastSuperordinateChange.toList)

def HistoryEntry.times (entry : HistoryEntry) : List Instant := [entry.modificationTime]

def BillingEvent.times (event : BillingEvent) : List Instant := [event.eventTime]

def RefreshRequest.times (request : RefreshRequest) : List Instant := [request.requestedAt]

def Create.Response.times (response : Create.Response) : List Instant := [response.creationTime]

namespace Wire

open Wire (encode decode)

/-- A record that is written as an object is read from its members. -/
theorem decodeRecord_obj_eq {α : Type} {name : String} {size : Nat} {members : List (String × Json)}
    {ofMembers : List (String × Json) → Except DecodeError α} {ofFields : String → Fields α}
    {r : Except DecodeError α} (h : ofMembers members = r) :
    decodeRecord name size ofMembers ofFields (.obj members) = r := h

section Members

variable {α β : Type} [Wire α] {a : α} {members : List (String × Json)} {name : String}

/-- The only member of a name is found, and decoded where it is faithful. -/
theorem member?_eq_some (ha : Faithful a)
    (honly : members.filter (fun entry => entry.1 == name) = [(name, encode a)]) :
    member? members name = .ok (some a) := by
  have hdecode : decode (encode a) = .ok a := ha
  rw [member?, honly]
  dsimp only
  rw [hdecode]
  rfl

/-- A decoder that reads a member goes on with the value of that member. -/
theorem member?_bind_eq (ha : Faithful a)
    (honly : members.filter (fun entry => entry.1 == name) = [(name, encode a)])
    {f : Option α → Except DecodeError β} {r : Except DecodeError β} (hrest : f (some a) = r) :
    (member? members name >>= f) = r := by
  rw [member?_eq_some ha honly]
  exact hrest

end Members

theorem faithful_clientId (client : ClientId) : Faithful client := rfl

theorem faithful_hostKey (key : HostKey) : Faithful key := by
  have hid : decode (encode key.id) = .ok key.id := faithful_uuid key.id
  change HostKey.mk <$> decode (encode key.id) = _
  rw [hid]
  rfl

theorem faithful_domainKey (key : DomainKey) : Faithful key := by
  have hid : decode (encode key.id) = .ok key.id := faithful_uuid key.id
  change DomainKey.mk <$> decode (encode key.id) = _
  rw [hid]
  rfl

theorem faithful_historyType (type : HistoryType) : Faithful type := by cases type; rfl

theorem faithful_addresses (addresses : List IpAddress) : Faithful addresses :=
  faithful_list fun ip _ => faithful_ipAddress ip

theorem faithful_statuses (statuses : StatusSet) : Faithful statuses :=
  faithful_sortedSet fun status _ => faithful_statusValue status

theorem faithful_superordinate (superordinate : Option DomainKey) : Faithful superordinate :=
  faithful_option nofun fun key _ => faithful_domainKey key

theorem faithful_time? {time : Option Instant} (h : ∀ i ∈ time, i.InFourDigits) : Faithful time :=
  faithful_option nofun fun i hi => faithful_instant (h i hi)

theorem faithful_declaredAddress (declared : DeclaredAddress) : Faithful declared := by
  refine decodeRecord_obj_eq ?_
  refine member?_bind_eq (faithful_string declared.literal) (by rfl) ?_
  refine member?_bind_eq (faithful_ipVersion declared.version) (by rfl) ?_
  rfl

theorem faithful_command (command : Create.Command) : Faithful command := by
  have haddresses : Faithful command.addresses := faithful_list fun declared _ => faithful_declaredAddress declared
  refine decodeRecord_obj_eq ?_
  refine member?_bind_eq haddresses (by rfl) ?_
  refine member?_bind_eq (faithful_string command.hostName) (by rfl) ?_
  rfl

theorem faithful_host {host : Host} (h : ∀ i ∈ host.times, i.InFourDigits) : Faithful host := by
  have hcreation : host.creationTime.InFourDigits := h _ List.mem_cons_self
  have hdeletion : ∀ i ∈ host.deletionTime, i.InFourDigits := fun i hi =>
    h i (List.mem_cons_of_mem _ (List.mem_append_left _ (Option.mem_toList.2 hi)))
  have hchange : ∀ i ∈ host.lastSuperordinateChange, i.InFourDigits := fun i hi =>
    h i (List.mem_cons_of_mem _ (List.mem_append_right _ (Option.mem_toList.2 hi)))
  refine decodeRecord_obj_eq ?_
  refine member?_bind_eq (faithful_addresses host.addresses) (by rfl) ?_
  refine member?_bind_eq (faithful_clientId host.creator) (by rfl) ?_
  refine member?_bind_eq (faithful_instant hcreation) (by rfl) ?_
  refine member?_bind_eq (faithful_time? hdeletion) (by rfl) ?_
  refine member?_bind_eq (faithful_hostName host.name) (by rfl) ?_
  refine member?_bind_eq (faithful_hostKey host.key) (by rfl) ?_
  refine member?_bind_eq (faithful_time? hchange) (by rfl) ?_
  refine member?_bind_eq (faithful_clientId host.sponsor) (by rfl) ?_
  refine member?_bind_eq (faithful_statuses host.statuses) (by rfl) ?_
  refine member?_bind_eq (faithful_superordinate host.superordinate) (by rfl) ?_
  rfl

theorem faithful_domain {domain : Domain} (h : ∀ i ∈ domain.times, i.InFourDigits) : Faithful domain := by
  have hcreation : domain.creationTime.InFourDigits := h _ List.mem_cons_self
  have hdeletion : ∀ i ∈ domain.deletionTime, i.InFourDigits := fun i hi =>
    h i (List.mem_cons_of_mem _ (Option.mem_toList.2 hi))
  have hsubordinates : Faithful domain.subordinateHosts := faithful_sortedSet fun name _ => faithful_string name
  refine decodeRecord_obj_eq ?_
  refine member?_bind_eq (faithful_instant hcreation) (by rfl) ?_
  refine member?_bind_eq (faithful_time? hdeletion) (by rfl) ?_
  refine member?_bind_eq (faithful_string domain.name) (by rfl) ?_
  refine member?_bind_eq (faithful_domainKey domain.key) (by rfl) ?_
  refine member?_bind_eq (faithful_clientId domain.sponsor) (by rfl) ?_
  refine member?_bind_eq (faithful_statuses domain.statuses) (by rfl) ?_
  refine member?_bind_eq hsubordinates (by rfl) ?_
  rfl

theorem faithful_historyEntry {entry : HistoryEntry} (h : ∀ i ∈ entry.times, i.InFourDigits) :
    Faithful entry := by
  refine decodeRecord_obj_eq ?_
  refine member?_bind_eq (faithful_clientId entry.client) (by rfl) ?_
  refine member?_bind_eq (faithful_uuid entry.correlation) (by rfl) ?_
  refine member?_bind_eq (faithful_uuid entry.entryId) (by rfl) ?_
  refine member?_bind_eq (faithful_uint32 entry.entryVersion) (by rfl) ?_
  refine member?_bind_eq (faithful_historyType entry.type) (by rfl) ?_
  refine member?_bind_eq (faithful_hostKey entry.hostKey) (by rfl) ?_
  refine member?_bind_eq (faithful_hostName entry.hostName) (by rfl) ?_
  refine member?_bind_eq (faithful_instant (h _ List.mem_cons_self)) (by rfl) ?_
  rfl

theorem faithful_billingEvent {event : BillingEvent} (h : ∀ i ∈ event.times, i.InFourDigits) :
    Faithful event := by
  refine decodeRecord_obj_eq ?_
  refine member?_bind_eq (faithful_clientId event.client) (by rfl) ?_
  refine member?_bind_eq (faithful_uuid event.eventId) (by rfl) ?_
  refine member?_bind_eq (faithful_instant (h _ List.mem_cons_self)) (by rfl) ?_
  refine member?_bind_eq (faithful_string event.reason) (by rfl) ?_
  rfl

theorem faithful_refreshRequest {request : RefreshRequest} (h : ∀ i ∈ request.times, i.InFourDigits) :
    Faithful request := by
  refine decodeRecord_obj_eq ?_
  refine member?_bind_eq (faithful_hostName request.hostName) (by rfl) ?_
  refine member?_bind_eq (faithful_instant (h _ List.mem_cons_self)) (by rfl) ?_
  rfl

theorem faithful_response {response : Create.Response} (h : ∀ i ∈ response.times, i.InFourDigits) :
    Faithful response := by
  refine decodeRecord_obj_eq ?_
  refine member?_bind_eq (faithful_addresses response.addresses) (by rfl) ?_
  refine member?_bind_eq (faithful_instant (h _ List.mem_cons_self)) (by rfl) ?_
  refine member?_bind_eq (faithful_bool response.dryRun) (by rfl) ?_
  refine member?_bind_eq (faithful_uuid response.historyEntry) (by rfl) ?_
  refine member?_bind_eq (faithful_hostKey response.hostKey) (by rfl) ?_
  refine member?_bind_eq (faithful_hostName response.hostName) (by rfl) ?_
  refine member?_bind_eq (faithful_superordinate response.superordinate) (by rfl) ?_
  rfl

/-- Values whose times are in the years of four digits are decoded from what they are encoded as; what was decoded
from any JSON is decoded again from what it is encoded as. -/
structure RoundTrips (α : Type) [Wire α] (times : α → List Instant) : Prop where
  decode_encode (a : α) : (∀ i ∈ times a, i.InFourDigits) → decode (encode a) = .ok a
  decode_encode_decode (value : Json) (a : α) : decode value = .ok a → (∀ i ∈ times a, i.InFourDigits) →
    (decode (encode a) : Except DecodeError α) = decode value

theorem roundTrips_of_faithful {α : Type} [Wire α] {times : α → List Instant}
    (h : ∀ a, (∀ i ∈ times a, i.InFourDigits) → Faithful a) : RoundTrips α times where
  decode_encode := h
  decode_encode_decode _ a hvalue htimes := (h a htimes).trans hvalue.symm

/-- Every type that is stored or sent round-trips through its wire form, and a name is decoded exactly from the texts
that are accepted as that name. -/
theorem wireForms_roundTrip :
    RoundTrips HostName (fun _ => []) ∧
      (∀ (value : Json) (name : HostName),
        decode value = .ok name ↔ ∃ s, value = .str s ∧ HostName.parse s = .ok name) ∧
      RoundTrips Create.Command (fun _ => []) ∧
      RoundTrips DeclaredAddress (fun _ => []) ∧
      RoundTrips Host Host.times ∧
      RoundTrips Domain Domain.times ∧
      RoundTrips HistoryEntry HistoryEntry.times ∧
      RoundTrips RefreshRequest RefreshRequest.times ∧
      RoundTrips Create.Response Create.Response.times ∧
      RoundTrips BillingEvent BillingEvent.times :=
  ⟨roundTrips_of_faithful fun name _ => faithful_hostName name,
    fun _ _ => decode_hostName_eq_ok_iff,
    roundTrips_of_faithful fun command _ => faithful_command command,
    roundTrips_of_faithful fun declared _ => faithful_declaredAddress declared,
    roundTrips_of_faithful fun _ => faithful_host,
    roundTrips_of_faithful fun _ => faithful_domain,
    roundTrips_of_faithful fun _ => faithful_historyEntry,
    roundTrips_of_faithful fun _ => faithful_refreshRequest,
    roundTrips_of_faithful fun _ => faithful_response,
    roundTrips_of_faithful fun _ => faithful_billingEvent⟩

/-- A host with an address that has two runs of zero groups, created in a leap second. -/
def leapHost : Host where
  key := ⟨⟨0⟩⟩
  name := ⟨"ns1.example.tld", by rfl⟩
  addresses := [.v6 ⟨[0x2001, 0xdb8, 0, 0, 1, 0, 0, 0], by rfl⟩, .v4 ⟨192, 0, 2, 1⟩]
  superordinate := some ⟨⟨1⟩⟩
  sponsor := ⟨"registrar"⟩
  creator := ⟨"registrar"⟩
  statuses := StatusSet.default.insert .linked
  creationTime := { seconds := 1483228799, nanos := 1500000000, nanos_lt := .inr (by decide) }
  deletionTime := none
  lastSuperordinateChange := none

theorem leapHost_roundTrips :
    (∀ i ∈ leapHost.times, i.InFourDigits) ∧ decode (encode leapHost) = .ok leapHost := by
  have htimes : ∀ i ∈ leapHost.times, i.InFourDigits := by decide
  exact ⟨htimes, wireForms_roundTrip.2.2.2.2.1.decode_encode leapHost htimes⟩

end Wire

end Bailiwick
