import Bailiwick.Proofs.Interference
import Bailiwick.Transaction

/-!
What the versions noted by an attempt are good for. `Body.evaluate` says what a body comes to on one store
that nobody else changes. The body is run while others change the store; if the versions it has noted are
still current on some later store, then it has come to what it comes to on that store alone. A version
never returns, so it is the first version noted of a key that counts, and reads answered from the
attempt's own writes need none.
-/

namespace Bailiwick

namespace Store

/-- The hosts stored by some writes under a name. -/
def hostsAmong (writes : List Write) (name : String) : List Host :=
  writes.filterMap fun write =>
    match write with
    | .insertHost host => if name = host.name.text then some host else none
    | _ => none

theorem hostsNamed_apply (s : Store) (write : Write) (name : String) :
    (s.apply write).hostsNamed name = s.hostsNamed name ++ hostsAmong [write] name := by
  cases write with
  | insertHost host =>
      rw [apply, hostsNamed_putHost]
      by_cases h : name = host.name.text
      · simp [hostsAmong, h]
      · simp [hostsAmong, h]
  | _ => simp [hostsAmong, apply, hostsNamed]

theorem hostsNamed_applyAll (s : Store) (writes : List Write) (name : String) :
    (s.applyAll writes).hostsNamed name = s.hostsNamed name ++ hostsAmong writes name := by
  induction writes generalizing s with
  | nil => simp [applyAll, hostsAmong]
  | cons write rest ih =>
      have hsplit : hostsAmong (write :: rest) name = hostsAmong [write] name ++ hostsAmong rest name := by
        rw [hostsAmong, ← List.singleton_append, List.filterMap_append]
        rfl
      rw [hsplit, ← List.append_assoc, ← hostsNamed_apply]
      exact ih (s.apply write)

end Store

namespace Attempt

open Store

/-- The newest active host among the writes of an attempt. -/
theorem find?_hostsAmong (a : Attempt) (name : HostName) (now : Instant) :
    (hostsAmong a.writes name.text).reverse.find? (·.isActiveAt now) = a.ownHost? name now := by
  rw [hostsAmong, ← List.filterMap_reverse, ownHost?]
  induction a.writes.reverse with
  | nil => rfl
  | cons write rest ih =>
      cases write with
      | insertHost host =>
          by_cases hname : host.name = name
          · subst hname
            by_cases hactive : host.isActiveAt now = true
            · simp [hactive]
            · simpa [hactive] using ih
          · have htext : ¬ name.text = host.name.text := fun h => hname (HostName.text_injective h.symm)
            simpa [hname, htext] using ih
      | _ => simpa using ih

/-- An attempt reads hosts as if its writes were applied already. -/
theorem loadHost_fst (a : Attempt) (s : Store) (name : HostName) (now : Instant) :
    (a.loadHost s name now).1 = (s.applyAll a.writes).activeHost name.text now := by
  rw [activeHost, hostsNamed_applyAll, List.reverse_append, List.find?_append, find?_hostsAmong, loadHost]
  cases a.ownHost? name now with
  | none => rfl
  | some host => rfl

/-- Every version that an attempt has noted is one that its key had between the start of the attempt and
now. -/
def Noted (c : Company) (start now : World) (a : Attempt) : Prop :=
  ∀ read ∈ a.reads, c.Meanwhile start now fun s => s.version read.1 = read.2

theorem noted_empty (c : Company) (start now : World) : empty.Noted c start now :=
  fun _ h => absurd h List.not_mem_nil

theorem Noted.of_changes {c : Company} {start v w : World} {a : Attempt} (h : a.Noted c start v)
    (hvw : c.changes v w) : a.Noted c start w :=
  fun read hread => (h read hread).of_changes hvw

theorem isCurrent_iff {a : Attempt} {s : Store} :
    a.isCurrent s = true ↔ ∀ read ∈ a.reads, s.version read.1 = read.2 := by
  simp [isCurrent]

theorem subset_reads_note (a : Attempt) (key : ReadKey) (version : Nat) :
    a.reads ⊆ (a.note key version).reads := by
  rw [note]
  split
  · exact List.Subset.refl _
  · exact List.subset_append_left _ _

/-- A key that was noted stays with the version that was noted first. -/
theorem exists_mem_reads_note (a : Attempt) (key : ReadKey) (version : Nat) :
    ∃ noted, (key, noted) ∈ (a.note key version).reads := by
  rw [note]
  split
  · next h =>
      obtain ⟨⟨k, noted⟩, hmem, hkey⟩ := List.any_eq_true.1 h
      simp only [decide_eq_true_eq] at hkey
      subst hkey
      exact ⟨noted, hmem⟩
  · exact ⟨version, List.mem_append_right _ (List.mem_singleton_self _)⟩

theorem Noted.note {c : Company} {start now : World} {a : Attempt} (h : a.Noted c start now)
    (hnow : c.changes start now) (key : ReadKey) : (a.note key (now.store.version key)).Noted c start now := by
  rw [Attempt.note]
  split
  · exact h
  · intro read hread
    rcases List.mem_append.1 hread with hold | hnew
    · exact h read hold
    · rw [List.mem_singleton.1 hnew]
      exact ⟨now, hnow, c.refl now, rfl⟩

theorem Noted.loadHost {c : Company} {start now : World} {a : Attempt} (h : a.Noted c start now)
    (hnow : c.changes start now) (name : HostName) (instant : Instant) :
    (a.loadHost now.store name instant).2.Noted c start now := by
  rw [Attempt.loadHost]
  split
  · exact h
  · exact h.note hnow (.host name.text)

@[simp] theorem writes_empty : empty.writes = [] := rfl

@[simp] theorem writes_note (a : Attempt) (key : ReadKey) (version : Nat) :
    (a.note key version).writes = a.writes := by
  rw [note]
  split <;> rfl

/-- A later store on which an attempt is current has not moved past what the attempt noted. -/
theorem version_eq_of_isCurrent {c : Company} (hc : c.Grows) {start now : World} {a e : Attempt}
    {t : Store} (key : ReadKey) (hnoted : a.Noted c start now) (hnow : c.changes start now)
    (hlater : now.store.Later t) (hreads : (a.note key (now.store.version key)).reads ⊆ e.reads)
    (hcurrent : e.isCurrent t = true) : t.version key = now.store.version key := by
  obtain ⟨noted, hmem⟩ := a.exists_mem_reads_note key (now.store.version key)
  obtain ⟨u, -, hu, hversion⟩ := hnoted.note hnow key (key, noted) hmem
  have hreached : u.store.version key ≤ now.store.version key := (hc hu).version_le key
  have hkept : t.version key = noted := isCurrent_iff.1 hcurrent (key, noted) (hreads hmem)
  have hgrown : now.store.version key ≤ t.version key := hlater.version_le key
  simp only at hversion
  omega

end Attempt

namespace Store

theorem activeHost_congr {s t : Store} {name : String} (h : t.hostsNamed name = s.hostsNamed name)
    (writes : List Write) (now : Instant) :
    (t.applyAll writes).activeHost name now = (s.applyAll writes).activeHost name now := by
  rw [activeHost, activeHost, hostsNamed_applyAll, hostsNamed_applyAll, h]

theorem activeDomain_congr {s t : Store} {name : String}
    (h : (t.domains.get? name).map Domain.bare = (s.domains.get? name).map Domain.bare) (now : Instant) :
    (t.activeDomain name now).map Domain.bare = (s.activeDomain name now).map Domain.bare := by
  rw [activeDomain, activeDomain]
  cases ht : t.domains.get? name with
  | none =>
      rw [ht] at h
      rw [Option.map_eq_none_iff.1 h.symm]
  | some d =>
      rw [ht] at h
      obtain ⟨e, hs, hbare⟩ := Option.map_eq_some_iff.1 h.symm
      have hactive := Domain.isActiveAt_of_bare hbare now
      rw [hs, Option.filter_some, Option.filter_some, hactive]
      split
      · simp [hbare]
      · rfl

end Store

namespace Body

variable {α β : Type}

/-- What a body comes to on one store after some writes of its own. It reads hosts from the store with
those writes applied, and domains from the store itself. -/
def evaluate (s : Store) (writes : List Store.Write) : Body α → Except Refusal α × List Store.Write
  | .done result => (result, writes)
  | .loadHost name now next => (next ((s.applyAll writes).activeHost name.text now)).evaluate s writes
  | .loadDomain name now next => (next (s.activeDomain name now)).evaluate s writes
  | .write w rest => rest.evaluate s (writes ++ [w])

/-- A body that is run alone comes to what it evaluates to. -/
theorem run_alone (b : Body α) (a : Attempt) (surroundings : Surroundings) (w : World) :
    ∃ e, (b.run a).run surroundings w = (w, (b.evaluate w.store a.writes).1, e) ∧
      e.writes = (b.evaluate w.store a.writes).2 := by
  induction b generalizing a with
  | done result => exact ⟨a, rfl, rfl⟩
  | write write rest ih => exact ih (a.write write)
  | loadHost name now next ih =>
      have hwrites : (a.loadHost w.store name now).2.writes = a.writes := by
        rw [Attempt.loadHost]
        split
        · rfl
        · exact a.writes_note _ _
      rw [evaluate, ← a.loadHost_fst, ← hwrites]
      exact ih (a.loadHost w.store name now).1 (a.loadHost w.store name now).2
  | loadDomain name now next ih =>
      rw [evaluate, ← a.writes_note (.domain name) (w.store.domainVersion name)]
      exact ih (w.store.activeDomain name now) (a.loadDomain w.store name now).2

/-- The body of a transaction that does not look at the names of the hosts under a domain. -/
def OverlooksHosts : Body α → Prop
  | .done _ => True
  | .loadHost _ _ next => ∀ found, (next found).OverlooksHosts
  | .loadDomain _ _ next => (∀ found, (next found).OverlooksHosts) ∧
      ∀ found other : Option Domain, found.map Domain.bare = other.map Domain.bare → next found = next other
  | .write _ rest => rest.OverlooksHosts

/-- A body that was begun on one attempt has come to a result and another attempt, and would come to the
same on any later store on which that attempt is current. -/
structure Explains (b : Body α) (a : Attempt) (s : Store) (result : Except Refusal α) (e : Attempt) :
    Prop where
  reads : a.reads ⊆ e.reads
  evaluate_eq (t : Store) : s.Later t → e.isCurrent t = true → b.evaluate t a.writes = (result, e.writes)

/-- A read of a host is explained by the version it notes, or by the writes of the attempt. -/
theorem Explains.loadHost {c : Company} (hc : c.Grows) {start now : World} {name : HostName}
    {instant : Instant} {next : Option Host → Body α} {a e : Attempt} {t : Store}
    {result : Except Refusal α} (hnoted : a.Noted c start now) (hnow : c.changes start now)
    (hlater : now.store.Later t)
    (h : (next (a.loadHost now.store name instant).1).Explains (a.loadHost now.store name instant).2 t result e) :
    (Body.loadHost name instant next).Explains a t result e := by
  have hfound := a.loadHost_fst now.store name instant
  cases hown : a.ownHost? name instant with
  | some host =>
      have hload (u : Store) : a.loadHost u name instant = (some host, a) := by rw [Attempt.loadHost, hown]
      rw [hload] at h
      refine ⟨h.reads, ?_⟩
      intro u hu hcurrent
      rw [evaluate, ← a.loadHost_fst u name instant, hload]
      exact h.evaluate_eq u hu hcurrent
  | none =>
      have hload : (a.loadHost now.store name instant).2
          = a.note (.host name.text) (now.store.version (.host name.text)) := by
        rw [Attempt.loadHost, hown]
        rfl
      rw [hload] at h
      refine ⟨List.Subset.trans (a.subset_reads_note _ _) h.reads, ?_⟩
      intro u hu hcurrent
      have hversion := Attempt.version_eq_of_isCurrent hc (.host name.text) hnoted hnow (hlater.trans hu) h.reads
        hcurrent
      have hrows := (hlater.trans hu).hosts_eq name.text hversion
      rw [evaluate, Store.activeHost_congr hrows, ← hfound, ← a.writes_note (.host name.text) _]
      exact h.evaluate_eq u hu hcurrent

/-- A read of a domain is explained by the version it notes, as far as the body looks at the row. -/
theorem Explains.loadDomain {c : Company} (hc : c.Grows) {start now : World} {name : String}
    {instant : Instant} {next : Option Domain → Body α} {a e : Attempt} {t : Store}
    {result : Except Refusal α} (hnoted : a.Noted c start now) (hnow : c.changes start now)
    (hlater : now.store.Later t)
    (hnext : ∀ found other : Option Domain,
      found.map Domain.bare = other.map Domain.bare → next found = next other)
    (h : (next (a.loadDomain now.store name instant).1).Explains
      (a.loadDomain now.store name instant).2 t result e) :
    (Body.loadDomain name instant next).Explains a t result e := by
  refine ⟨List.Subset.trans (a.subset_reads_note _ _) h.reads, ?_⟩
  intro u hu hcurrent
  have hversion := Attempt.version_eq_of_isCurrent hc (.domain name) hnoted hnow (hlater.trans hu)
    h.reads hcurrent
  have hrow := (hlater.trans hu).domain_eq name hversion
  have hsame := hnext _ _ (Store.activeDomain_congr hrow instant)
  rw [evaluate, hsame, ← a.writes_note (.domain name) (now.store.domainVersion name)]
  exact h.evaluate_eq u hu hcurrent

/-- What a body has come to in company: nothing but reads, all noted since a start, and a result that its
attempt explains. -/
structure Reaches (b : Body α) (c : Company) (a : Attempt) (start w : World) (turns : List Turn) (now : World)
    (result : Except Refusal α) (e : Attempt) : Prop where
  quiet : turns = []
  changes : c.changes w now
  noted : e.Noted c start now
  explains : b.Explains a now.store result e

/-- In company a body comes to something that its attempt explains. -/
theorem ensures_run {c : Company} (hc : c.Grows) {b : Body α} (hb : b.OverlooksHosts) {a : Attempt}
    {start w : World} (hw : c.changes start w) (hnoted : a.Noted c start w) :
    (b.run a).Ensures c (fun turns now reached => b.Reaches c a start w turns now reached.1 reached.2) w := by
  induction b generalizing a w with
  | done result =>
      intro w' hw'
      exact ⟨rfl, hw', hnoted.of_changes hw', List.Subset.refl _, fun t _ _ => rfl⟩
  | write write rest ih =>
      apply (ih hb (a := a.write write) hw hnoted).mono
      intro turns now reached h
      exact ⟨h.quiet, h.changes, h.noted, h.explains.reads, h.explains.evaluate_eq⟩
  | loadHost name instant next ih =>
      apply Work.ensures_step_of_isQuiet (fun _ _ => rfl)
      intro u hu _ _
      have hstart := c.trans hw hu
      have hnoted' := hnoted.of_changes hu
      apply (ih _ (hb _) hstart (hnoted'.loadHost hstart name instant)).mono
      intro turns now reached h
      exact ⟨h.quiet, c.trans hu h.changes, h.noted, h.explains.loadHost hc hnoted' hstart (hc h.changes)⟩
  | loadDomain name instant next ih =>
      apply Work.ensures_step_of_isQuiet (fun _ _ => rfl)
      intro u hu _ _
      have hstart := c.trans hw hu
      have hnoted' := hnoted.of_changes hu
      apply (ih _ (hb.1 _) hstart (hnoted'.note hstart (.domain name))).mono
      intro turns now reached h
      exact ⟨h.quiet, c.trans hu h.changes, h.noted,
        h.explains.loadDomain hc hnoted' hstart (hc h.changes) hb.2⟩

end Body

end Bailiwick
