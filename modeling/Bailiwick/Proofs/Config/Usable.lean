import Bailiwick.Proofs.Config.Loading

/-!
What can be done with a loaded configuration. The numbers allow at least one attempt and one millisecond, and the
servers of a broker are texts without commas and without blanks around them. There is one hole: a list of servers that
holds commas and blanks only is set, and no server is in it.
-/

namespace Bailiwick

open Text

/-- The text of a server: not empty, with no comma in it and no blank around it. -/
structure IsServer (server : String) : Prop where
  ne_empty : server ≠ ""
  no_comma : ',' ∉ server.toList
  starts : ∀ c ∈ server.toList.head?, isBlank c = false
  ends : ∀ c ∈ server.toList.getLast?, isBlank c = false

/-- A text of commas and blanks, with a comma among them. -/
structure OnlySeparators (raw : String) : Prop where
  comma : ',' ∈ raw.toList
  separators : ∀ c ∈ raw.toList, c = ',' ∨ isBlank c = true

namespace Messaging

variable {raw server : String}

/-- The servers are what is left of the pieces between commas. -/
theorem mem_servers_iff : server ∈ (ofServers raw).servers ↔
    ∃ piece ∈ splitAt ',' raw.toList, trim piece ≠ [] ∧ String.ofList (trim piece) = server := by
  simp only [ofServers, List.mem_map, List.mem_filter, Bool.not_eq_true', List.isEmpty_eq_false_iff]
  constructor
  · rintro ⟨_, ⟨⟨piece, hpiece, rfl⟩, hne⟩, rfl⟩
    exact ⟨piece, hpiece, hne, rfl⟩
  · rintro ⟨piece, hpiece, hne, rfl⟩
    exact ⟨_, ⟨⟨piece, hpiece, rfl⟩, hne⟩, rfl⟩

theorem isServer_of_mem (h : server ∈ (ofServers raw).servers) : IsServer server := by
  obtain ⟨piece, hpiece, hne, rfl⟩ := mem_servers_iff.1 h
  have htext : (String.ofList (trim piece)).toList = trim piece := String.toList_ofList
  constructor
  · intro hempty
    rw [hempty] at htext
    exact hne htext.symm
  · rw [htext]
    exact fun hmem => not_mem_of_mem_splitAt hpiece (mem_of_mem_trim hmem)
  · rw [htext]
    exact head?_trim piece
  · rw [htext]
    exact getLast?_trim piece

/-- There is no server in a text of commas and blanks, and in no other. -/
theorem servers_eq_nil_iff : (ofServers raw).servers = [] ↔ ∀ c ∈ raw.toList, c = ',' ∨ isBlank c = true := by
  have hnil : (ofServers raw).servers = [] ↔ ∀ piece ∈ splitAt ',' raw.toList, ∀ c ∈ piece, isBlank c = true := by
    rw [List.eq_nil_iff_forall_not_mem]
    simp only [mem_servers_iff, ← trim_eq_nil_iff]
    constructor
    · intro h piece hpiece
      by_contra hne
      exact h _ ⟨piece, hpiece, hne, rfl⟩
    · rintro h _ ⟨piece, hpiece, hne, -⟩
      exact hne (h piece hpiece)
  rw [hnil]
  constructor
  · intro h c hc
    rw [← joinWith_splitAt ',' raw.toList] at hc
    rcases mem_joinWith hc with hcomma | ⟨piece, hpiece, hmem⟩
    · exact .inl hcomma
    · exact .inr (h piece hpiece c hmem)
  · intro h piece hpiece c hc
    refine (h c (mem_of_mem_splitAt hpiece hc)).resolve_left ?_
    rintro rfl
    exact not_mem_of_mem_splitAt hpiece hc

end Messaging

namespace Config

/-- Requests can be carried out and published. -/
structure Usable (config : Config) : Prop where
  maxAttempts : 1 ≤ config.maxAttempts
  refreshTimeout : 1 ≤ config.refreshTimeout
  servers : ∀ messaging, config.messaging = some messaging →
    messaging.servers ≠ [] ∧ ∀ server ∈ messaging.servers, IsServer server

variable {lookup : String → Option String} {config : Config} {raw : String}

/-- A variable that is set to separators only is set, as commas are no blanks. -/
theorem isSet_and_servers_eq_nil_iff {name : String} :
    IsSet lookup name raw ∧ (Messaging.ofServers raw).servers = [] ↔ lookup name = some raw ∧ OnlySeparators raw := by
  rw [Messaging.servers_eq_nil_iff]
  constructor
  · rintro ⟨⟨hlookup, c, hc, hplain⟩, hseparators⟩
    refine ⟨hlookup, ?_, hseparators⟩
    obtain rfl := (hseparators c hc).resolve_right (by simp [hplain])
    exact hc
  · rintro ⟨hlookup, hcomma, hseparators⟩
    exact ⟨⟨hlookup, ',', hcomma, by decide⟩, hseparators⟩

theorem Loaded.isServer {messaging : Messaging} (h : Loaded lookup config)
    (hmessaging : config.messaging = some messaging) : ∀ server ∈ messaging.servers, IsServer server := by
  obtain ⟨raw, -, rfl⟩ := (h.messaging messaging).1 hmessaging
  exact fun server hserver => Messaging.isServer_of_mem hserver

theorem Loaded.messaging_eq_none_iff (h : Loaded lookup config) :
    config.messaging = none ↔ ∀ raw, ¬ IsSet lookup messagingVariable raw := by
  simp only [Option.eq_none_iff_forall_ne_some, ne_eq, h.messaging]
  constructor
  · exact fun hnone raw hset => hnone _ ⟨raw, hset, rfl⟩
  · rintro hunset messaging ⟨raw, hset, -⟩
    exact hunset raw hset

/-- What is loaded is usable unless the servers are separators only. -/
theorem Loaded.usable_iff (h : Loaded lookup config) :
    config.Usable ↔ ∀ raw, lookup messagingVariable = some raw → ¬ OnlySeparators raw := by
  constructor
  · intro husable raw hlookup honly
    obtain ⟨hset, hnil⟩ := isSet_and_servers_eq_nil_iff.2 ⟨hlookup, honly⟩
    exact (husable.servers _ ((h.messaging _).2 ⟨raw, hset, rfl⟩)).1 hnil
  · intro hplain
    refine ⟨(h.maxAttempts.bounds (by decide)).1, (h.refreshTimeout.bounds (by decide)).1, ?_⟩
    intro messaging hmessaging
    refine ⟨fun hnil => ?_, h.isServer hmessaging⟩
    obtain ⟨raw, hset, rfl⟩ := (h.messaging messaging).1 hmessaging
    obtain ⟨hlookup, honly⟩ := isSet_and_servers_eq_nil_iff.1 ⟨hset, hnil⟩
    exact hplain raw hlookup honly

/-- What is refused is a fault of the configuration, and what is loaded allows an attempt and a millisecond and has proper
servers. Without a list of servers there is no broker; with one that is no separators only there is a server. -/
theorem ofLookup_usable_iff (lookup : String → Option String) :
    (∀ fault, ofLookup lookup = .error fault → ∃ reason, fault = .configuration reason) ∧
    ∀ config, ofLookup lookup = .ok config →
      1 ≤ config.maxAttempts ∧ 1 ≤ config.refreshTimeout ∧
      (∀ messaging, config.messaging = some messaging → ∀ server ∈ messaging.servers, IsServer server) ∧
      (config.messaging = none ↔ ∀ raw, ¬ IsSet lookup messagingVariable raw) ∧
      (config.Usable ↔ ∀ raw, lookup messagingVariable = some raw → ¬ OnlySeparators raw) := by
  constructor
  · intro fault h
    rcases ofLookup_eq_error_iff.1 h with hmisread | ⟨-, hmisread⟩
    · exact ⟨_, rfl⟩
    · exact ⟨_, rfl⟩
  · intro config h
    have hloaded := ofLookup_eq_ok_iff.1 h
    exact ⟨(hloaded.maxAttempts.bounds (by decide)).1, (hloaded.refreshTimeout.bounds (by decide)).1,
      fun _ hmessaging => hloaded.isServer hmessaging, hloaded.messaging_eq_none_iff, hloaded.usable_iff⟩

/-- A lone comma is accepted as the servers of a broker. -/
theorem ofLookup_comma :
    ∃ config, ofLookup (Function.update (fun _ => none) messagingVariable (some ",")) = .ok config ∧
      config.messaging.map Messaging.servers = some [] ∧ ¬ config.Usable := by
  refine ⟨{ Config.default with messaging := some (.ofServers ",") }, ?_, ?_, ?_⟩
  · decide +kernel
  · decide +kernel
  · intro husable
    exact (husable.servers _ rfl).1 (by decide +kernel)

end Config

end Bailiwick
