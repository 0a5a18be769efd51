import Bailiwick.Create.Checks
import Bailiwick.Refresh
import Bailiwick.Wire.Basic

/-!
Wire forms of rows, commands and responses. Members are written in the order of their names, which is also
the order in which they are read.
-/

namespace Bailiwick.Wire

open Wire (encode decode)

instance : Wire ClientId where
  encode client := .str client.text
  decode value := ClientId.mk <$> decode value

instance : Wire HostKey where
  encode key := encode key.id
  decode value := HostKey.mk <$> decode value

instance : Wire DomainKey where
  encode key := encode key.id
  decode value := DomainKey.mk <$> decode value

instance : Wire HistoryType where
  encode type := .str type.text
  decode := decodeVariant [(HistoryType.hostCreate.text, .hostCreate)]

instance : Wire DeclaredAddress where
  encode declared := .obj [("address", encode declared.literal), ("ip", encode declared.version)]
  decode := decodeRecord "DeclaredAddress" 2
    (fun members => do
      let literal ← member? members "address"
      let version ← member? members "ip"
      return { version := ← required "ip" version, literal := ← required "address" literal })
    (fun record => return { version := ← next record, literal := ← next record })

instance : Wire Create.Command where
  encode command := .obj [("addresses", encode command.addresses), ("host_name", encode command.hostName)]
  decode := decodeRecord "CreateHostCommand" 2
    (fun members => do
      let addresses ← member? members "addresses"
      let hostName ← member? members "host_name"
      return { hostName := ← required "host_name" hostName, addresses := addresses.getD [] })
    (fun record => return { hostName := ← next record, addresses := ← nextOr [] })

instance : Wire Host where
  encode host := .obj [
    ("addresses", encode host.addresses),
    ("creating_client", encode host.creator),
    ("creation_time", encode host.creationTime),
    ("deletion_time", encode host.deletionTime),
    ("host_name", encode host.name),
    ("key", encode host.key),
    ("last_superordinate_change", encode host.lastSuperordinateChange),
    ("sponsoring_client", encode host.sponsor),
    ("statuses", encode host.statuses),
    ("superordinate_domain", encode host.superordinate)]
  decode := decodeRecord "Host" 10
    (fun members => do
      let addresses ← member? members "addresses"
      let creator ← member? members "creating_client"
      let creationTime ← member? members "creation_time"
      let deletionTime ← member? members "deletion_time"
      let name ← member? members "host_name"
      let key ← member? members "key"
      let lastSuperordinateChange ← member? members "last_superordinate_change"
      let sponsor ← member? members "sponsoring_client"
      let statuses ← member? members "statuses"
      let superordinate ← member? members "superordinate_domain"
      return {
        key := ← required "key" key
        name := ← required "host_name" name
        addresses := ← required "addresses" addresses
        superordinate := superordinate.getD none
        sponsor := ← required "sponsoring_client" sponsor
        creator := ← required "creating_client" creator
        statuses := ← required "statuses" statuses
        creationTime := ← required "creation_time" creationTime
        deletionTime := deletionTime.getD none
        lastSuperordinateChange := lastSuperordinateChange.getD none })
    (fun record => return {
      key := ← next record
      name := ← next record
      addresses := ← next record
      superordinate := ← next record
      sponsor := ← next record
      creator := ← next record
      statuses := ← next record
      creationTime := ← next record
      deletionTime := ← next record
      lastSuperordinateChange := ← next record })

instance : Wire Domain where
  encode domain := .obj [
    ("creation_time", encode domain.creationTime),
    ("deletion_time", encode domain.deletionTime),
    ("domain_name", encode domain.name),
    ("key", encode domain.key),
    ("sponsoring_client", encode domain.sponsor),
    ("statuses", encode domain.statuses),
    ("subordinate_hosts", encode domain.subordinateHosts)]
  decode := decodeRecord "Domain" 7
    (fun members => do
      let creationTime ← member? members "creation_time"
      let deletionTime ← member? members "deletion_time"
      let name ← member? members "domain_name"
      let key ← member? members "key"
      let sponsor ← member? members "sponsoring_client"
      let statuses ← member? members "statuses"
      let subordinateHosts ← member? members "subordinate_hosts"
      return {
        key := ← required "key" key
        name := ← required "domain_name" name
        sponsor := ← required "sponsoring_client" sponsor
        statuses := ← required "statuses" statuses
        subordinateHosts := ← required "subordinate_hosts" subordinateHosts
        creationTime := ← required "creation_time" creationTime
        deletionTime := deletionTime.getD none })
    (fun record => return {
      key := ← next record
      name := ← next record
      sponsor := ← next record
      statuses := ← next record
      subordinateHosts := ← next record
      creationTime := ← next record
      deletionTime := ← next record })

instance : Wire HistoryEntry where
  encode entry := .obj [
    ("client_id", encode entry.client),
    ("correlation_id", encode entry.correlation),
    ("entry_id", encode entry.entryId),
    ("entry_version", encode entry.entryVersion),
    ("history_type", encode entry.type),
    ("host_key", encode entry.hostKey),
    ("host_name", encode entry.hostName),
    ("modification_time", encode entry.modificationTime)]
  decode := decodeRecord "HistoryEntry" 8
    (fun members => do
      let client ← member? members "client_id"
      let correlation ← member? members "correlation_id"
      let entryId ← member? members "entry_id"
      let entryVersion ← member? members "entry_version"
      let type ← member? members "history_type"
      let hostKey ← member? members "host_key"
      let hostName ← member? members "host_name"
      let modificationTime ← member? members "modification_time"
      return {
        entryVersion := ← required "entry_version" entryVersion
        entryId := ← required "entry_id" entryId
        type := ← required "history_type" type
        hostKey := ← required "host_key" hostKey
        hostName := ← required "host_name" hostName
        client := ← required "client_id" client
        modificationTime := ← required "modification_time" modificationTime
        correlation := ← required "correlation_id" correlation })
    (fun record => return {
      entryVersion := ← next record
      entryId := ← next record
      type := ← next record
      hostKey := ← next record
      hostName := ← next record
      client := ← next record
      modificationTime := ← next record
      correlation := ← next record })

instance : Wire BillingEvent where
  encode event := .obj [
    ("client_id", encode event.client),
    ("event_id", encode event.eventId),
    ("event_time", encode event.eventTime),
    ("reason", encode event.reason)]
  decode := decodeRecord "BillingEvent" 4
    (fun members => do
      let client ← member? members "client_id"
      let eventId ← member? members "event_id"
      let eventTime ← member? members "event_time"
      let reason ← member? members "reason"
      return {
        eventId := ← required "event_id" eventId
        client := ← required "client_id" client
        reason := ← required "reason" reason
        eventTime := ← required "event_time" eventTime })
    (fun record => return {
      eventId := ← next record
      client := ← next record
      reason := ← next record
      eventTime := ← next record })

instance : Wire RefreshRequest where
  encode request := .obj [
    ("host_name", encode request.hostName),
    ("requested_at", encode request.requestedAt)]
  decode := decodeRecord "RefreshRequest" 2
    (fun members => do
      let hostName ← member? members "host_name"
      let requestedAt ← member? members "requested_at"
      return {
        hostName := ← required "host_name" hostName
        requestedAt := ← required "requested_at" requestedAt })
    (fun record => return { hostName := ← next record, requestedAt := ← next record })

instance : Wire Create.Response where
  encode response := .obj [
    ("addresses", encode response.addresses),
    ("creation_time", encode response.creationTime),
    ("dry_run", encode response.dryRun),
    ("history_entry_id", encode response.historyEntry),
    ("host_key", encode response.hostKey),
    ("host_name", encode response.hostName),
    ("superordinate_domain", encode response.superordinate)]
  decode := decodeRecord "HostCreateResponse" 7
    (fun members => do
      let addresses ← member? members "addresses"
      let creationTime ← member? members "creation_time"
      let dryRun ← member? members "dry_run"
      let historyEntry ← member? members "history_entry_id"
      let hostKey ← member? members "host_key"
      let hostName ← member? members "host_name"
      let superordinate ← member? members "superordinate_domain"
      return {
        hostKey := ← required "host_key" hostKey
        hostName := ← required "host_name" hostName
        addresses := ← required "addresses" addresses
        superordinate := superordinate.getD none
        historyEntry := ← required "history_entry_id" historyEntry
        creationTime := ← required "creation_time" creationTime
        dryRun := ← required "dry_run" dryRun })
    (fun record => return {
      hostKey := ← next record
      hostName := ← next record
      addresses := ← next record
      superordinate := ← next record
      historyEntry := ← next record
      creationTime := ← next record
      dryRun := ← next record })

end Bailiwick.Wire
