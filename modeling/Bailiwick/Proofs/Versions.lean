import Bailiwick.Proofs.RunStores
import Bailiwick.Proofs.Store.Built
import Mathlib.Data.List.Pairwise

/-!
What versions count. The version of a host name is the number of rows stored under it, and that of a domain name the
number of times that a row was put there. Each edit keeps it so and each write of a transaction, also a link, which
changes a row and leaves its version. Where a version is the same in two states of a run, the rows are the same.
-/

namespace Bailiwick

namespace Store

/-- Whether an edit puts a domain row under a name. -/
def Edit.puts (name : String) : Edit → Bool
  | .putDomain domain => domain.name = name
  | _ => false

/-- The versions of a store count the host rows under each name, and how often a domain row was put under it; every row
stands under its own name. -/
structure Counted (puts : String → Nat) (s : Store) : Prop where
  hostVersion_eq (name : String) : s.hostVersion name = (s.hostsNamed name).length
  hostName_eq (name : String) : ∀ host ∈ s.hostsNamed name, host.name.text = name
  domainVersion_eq (name : String) : s.domainVersion name = puts name
  isSome_iff (name : String) : (s.domains.get? name).isSome = true ↔ 0 < puts name
  domainName_eq (name : String) : ∀ domain ∈ s.domains.get? name, domain.name = name

/-- Two stores have the same rows under every name of which they have the same version. A domain row may differ in the
names of its hosts. -/
structure Coherent (s t : Store) : Prop where
  hosts (name : String) : s.hostVersion name = t.hostVersion name → s.hostsNamed name = t.hostsNamed name
  domains (name : String) : s.domainVersion name = t.domainVersion name →
    (s.domains.get? name).map Domain.bare = (t.domains.get? name).map Domain.bare

theorem Coherent.refl (s : Store) : s.Coherent s := ⟨fun _ _ => rfl, fun _ _ => rfl⟩

instance : Std.Symm Coherent where
  symm _ _ h := ⟨fun name hname => (h.hosts name hname.symm).symm, fun name hname => (h.domains name hname.symm).symm⟩

/-- A later store has the same rows where it has the same version. -/
theorem Later.coherent {s t : Store} (h : s.Later t) : s.Coherent t :=
  ⟨fun name hname => (h.hosts_eq name hname.symm).symm, fun name hname => (h.domain_eq name hname.symm).symm⟩

theorem counted_empty : Counted (fun _ => 0) .empty where
  hostVersion_eq _ := rfl
  hostName_eq _ _ h := absurd h List.not_mem_nil
  domainVersion_eq _ := rfl
  isSome_iff _ := by simp [empty]
  domainName_eq _ _ h := by cases h

namespace Counted

variable {puts : String → Nat} {s : Store}

theorem putHost (h : Counted puts s) (host : Host) : Counted puts (s.putHost host) where
  hostVersion_eq name := by
    rw [hostVersion_putHost, hostsNamed_putHost, List.length_append, h.hostVersion_eq]
    split <;> rfl
  hostName_eq name row hrow := by
    rw [hostsNamed_putHost] at hrow
    rcases List.mem_append.1 hrow with hold | hnew
    · exact h.hostName_eq name row hold
    · split at hnew
      · next hname =>
          obtain rfl := List.mem_singleton.1 hnew
          exact hname.symm
      · cases hnew
  domainVersion_eq := h.domainVersion_eq
  isSome_iff := h.isSome_iff
  domainName_eq := h.domainName_eq

theorem putDomain (h : Counted puts s) (domain : Domain) :
    Counted (fun name => puts name + if domain.name = name then 1 else 0) (s.putDomain domain) where
  hostVersion_eq := h.hostVersion_eq
  hostName_eq := h.hostName_eq
  domainVersion_eq name := by
    rw [domainVersion_putDomain, h.domainVersion_eq]
    simp only [eq_comm]
  isSome_iff name := by
    rw [get?_domains_putDomain]
    by_cases hname : name = domain.name
    · simp [hname]
    · rw [if_neg hname, if_neg (Ne.symm hname), h.isSome_iff, Nat.add_zero]
  domainName_eq := orderly_putDomain h.domainName_eq domain

theorem edit (h : Counted puts s) (e : Edit) :
    Counted (fun name => puts name + if e.puts name then 1 else 0) (s.edit e) := by
  cases e with
  | addZone zone => exact ⟨h.hostVersion_eq, h.hostName_eq, h.domainVersion_eq, h.isSome_iff, h.domainName_eq⟩
  | putHost host => exact h.putHost host
  | putDomain domain =>
      simp only [Edit.puts, decide_eq_true_eq]
      exact h.putDomain domain

/-- A link changes a row where it stands. -/
theorem linkHost (h : Counted puts s) (key : DomainKey) (hostName : String) :
    Counted puts (s.apply (.linkHost key hostName)) where
  hostVersion_eq := h.hostVersion_eq
  hostName_eq := h.hostName_eq
  domainVersion_eq := h.domainVersion_eq
  isSome_iff name := by
    have hname := s.domains.map_get?_updateFirst (fun d => d.key = key) (fun d => d.addSubordinate hostName)
      Domain.name (fun _ => rfl) name
    have hsome := congrArg Option.isSome hname
    rw [Option.isSome_map, Option.isSome_map] at hsome
    rw [← h.isSome_iff name, ← hsome]
    rfl
  domainName_eq := orderly_linkHost h.domainName_eq key hostName

theorem apply (h : Counted puts s) (write : Write) : Counted puts (s.apply write) := by
  cases write with
  | insertHost host => exact h.putHost host
  | linkHost key hostName => exact h.linkHost key hostName
  | appendHistory entry =>
      exact ⟨h.hostVersion_eq, h.hostName_eq, h.domainVersion_eq, h.isSome_iff, h.domainName_eq⟩
  | insertBilling event =>
      exact ⟨h.hostVersion_eq, h.hostName_eq, h.domainVersion_eq, h.isSome_iff, h.domainName_eq⟩

theorem applyAll (h : Counted puts s) (writes : List Write) : Counted puts (s.applyAll writes) := by
  induction writes generalizing s with
  | nil => exact h
  | cons write rest ih => exact ih (h.apply write)

end Counted

end Store

/-- Whether a move puts a domain row under a name. -/
def Move.puts {α : Type} (name : String) : Move α → Bool
  | .edit e => e.puts name
  | _ => false

namespace Registry

variable {α : Type} {puts : String → Nat} {r : Registry α}

theorem counted_move (h : r.world.store.Counted puts) (m : Move α) :
    (r.move m).world.store.Counted fun name => puts name + if m.puts name then 1 else 0 := by
  cases m with
  | edit e => exact h.edit e
  | submit work => exact h
  | turn k surroundings =>
      rcases turn?_cases r k surroundings with ⟨hstay, -⟩ | ⟨op, next, hk⟩
      · rw [hstay]
        exact h
      · have hafter := Turn.store_after ⟨r.world, surroundings, op⟩
        rw [move_turn hk]
        change Store.Counted _ (Turn.after ⟨r.world, surroundings, op⟩).store
        rw [hafter]
        exact h.applyAll _

theorem counted_play (h : r.world.store.Counted puts) (moves : List (Move α)) :
    (r.play moves).world.store.Counted fun name => puts name + moves.countP (Move.puts name) := by
  induction moves generalizing r puts with
  | nil => exact h
  | cons m moves ih =>
      have hcount : (fun name => puts name + (m :: moves).countP (Move.puts name))
          = fun name => (puts name + if m.puts name then 1 else 0) + moves.countP (Move.puts name) := by
        funext name
        rw [List.countP_cons]
        omega
      rw [hcount]
      exact ih (counted_move h m)

/-- Whatever edits and commits build is built in a run, one bare commit after another. -/
theorem exists_play_of_built {s : Store} (h : s.Built) :
    ∃ moves : List (Move Bool), (({} : Registry Bool).play moves).world.store = s := by
  induction h with
  | empty => exact ⟨[], rfl⟩
  | edit _ e ih =>
      obtain ⟨moves, rfl⟩ := ih
      exact ⟨moves ++ [.edit e], by rw [play_append]; rfl⟩
  | commit _ writes ih =>
      obtain ⟨moves, rfl⟩ := ih
      -- A request that does nothing but commit is submitted, and has the turn.
      generalize hr : ({} : Registry Bool).play moves = r
      have hcommit : (r.move (.submit (Work.perform (.commit { writes })))).requests[r.requests.length]?
          = some (Work.perform (.commit { writes })) := List.getElem?_concat_length
      refine ⟨moves ++ [.submit (Work.perform (.commit { writes })), .turn r.requests.length .calm], ?_⟩
      rw [play_append, hr, play, List.foldl_cons, List.foldl_cons, List.foldl_nil, move_turn hcommit]
      exact (r.world.perform_commit_of_isCurrent .calm rfl).2.1

/-- In every run of a registry from an empty store, whatever its requests commit: the version of a host name is the
number of its rows, that of a domain name how often a row was put there, and rows stand under their own names. No version
goes down, and any two stores of the run have the same rows where they have the same version, up to the names of the
hosts under a domain. Every store that edits and commits can build is one of such a run. -/
theorem versions_count (hempty : r.world.store = .empty) (moves : List (Move α)) :
    (r.play moves).world.store.Counted (fun name => moves.countP (Move.puts name)) ∧
    (r.stores moves).Pairwise (fun s t => ∀ key, s.version key ≤ t.version key) ∧
    (∀ s ∈ r.stores moves, ∀ t ∈ r.stores moves, s.Coherent t) ∧
    ∀ s : Store, s.Built → ∃ moves : List (Move Bool), (({} : Registry Bool).play moves).world.store = s := by
  have hlater := r.pairwise_later moves
  refine ⟨?_, hlater.imp fun h => h.version_le, ?_, fun s => exists_play_of_built⟩
  · have hstart : r.world.store.Counted fun _ => 0 := hempty ▸ Store.counted_empty
    have hend := counted_play hstart moves
    simp only [Nat.zero_add] at hend
    exact hend
  · have hcoherent : (r.stores moves).Pairwise Store.Coherent := hlater.imp Store.Later.coherent
    exact fun s hs t ht => hcoherent.forall_of_forall (fun s _ => .refl s) hs ht

/-- A row of a host under a domain. -/
def linkedRow : Host where
  key := ⟨.ofNat 1⟩
  name := ⟨"ns2.example.tld", by rfl⟩
  addresses := []
  superordinate := some ⟨.ofNat 7⟩
  sponsor := ⟨"TheRegistrar"⟩
  creator := ⟨"TheRegistrar"⟩
  statuses := .default
  creationTime := .epoch
  deletionTime := none
  lastSuperordinateChange := none

/-- Adds the row with its link, and a link to a domain that is not there, unless the domain was put again. -/
def linking : Attempt where
  reads := [(.domain "example.tld", 1)]
  writes := [.insertHost linkedRow, .linkHost ⟨.ofNat 7⟩ "ns2.example.tld", .linkHost ⟨.ofNat 8⟩ "ns2.example.tld"]

/-- Two requests commit the same, one after the other, and before the second the domain is put again. -/
def relinking : List (Move Bool) :=
  [.edit (.putDomain (.new ⟨.ofNat 7⟩ "example.tld" ⟨"TheRegistrar"⟩ .epoch)),
    .edit (.putHost { linkedRow with deletionTime := some .epoch }),
    .submit (Work.perform (.commit linking)), .submit (Work.perform (.commit linking)), .turn 0 .calm,
    .edit (.putDomain (.new ⟨.ofNat 7⟩ "example.tld" ⟨"NewRegistrar"⟩ .epoch)), .turn 1 .calm]

/-- A domain gains a host without a new version, and only the names of its hosts tell the two states apart. -/
theorem versions_count_relinking :
    let r : Registry Bool := {}
    let final := (r.play relinking).world.store
    r.world.store = .empty ∧ final.hostVersion "ns2.example.tld" = (final.hostsNamed "ns2.example.tld").length ∧
      final.hostVersion "ns2.example.tld" = 2 ∧ final.domainVersion "example.tld" = 2 ∧
      ∃ s ∈ r.stores relinking, ∃ t ∈ r.stores relinking,
        s.domainVersion "example.tld" = t.domainVersion "example.tld" ∧
          s.domains.get? "example.tld" ≠ t.domains.get? "example.tld" ∧
          (s.domains.get? "example.tld").map Domain.bare = (t.domains.get? "example.tld").map Domain.bare := by
  intro r final
  obtain ⟨hcounted, -, hcoherent, -⟩ := versions_count (r := r) rfl relinking
  have hhosts : final.hostVersion "ns2.example.tld" = 2 := by decide +kernel
  have hgained : ∃ s ∈ r.stores relinking, ∃ t ∈ r.stores relinking,
      s.domainVersion "example.tld" = t.domainVersion "example.tld" ∧
        s.domains.get? "example.tld" ≠ t.domains.get? "example.tld" := by
    decide +kernel
  obtain ⟨s, hs, t, ht, hversion, hrow⟩ := hgained
  exact ⟨rfl, hcounted.hostVersion_eq _, hhosts, hcounted.domainVersion_eq _, s, hs, t, ht, hversion, hrow,
    (hcoherent s hs t ht).domains _ hversion⟩

end Registry

end Bailiwick
