import Bailiwick.Proofs.Create.Outcome

/-!
The depth rule on a name that is a managed zone itself. The zone of a name is looked for among its proper suffixes, so a
zone is as good a name as any other: it is too shallow exactly where it has fewer than two labels in front of its public
suffix, of a shorter managed zone or of its last label.
-/

namespace Bailiwick

theorem Store.isManaged_addZone (s : Store) (zone other : String) :
    (s.addZone zone).isManaged other = true ↔ other = zone ∨ s.isManaged other = true := by
  rw [isManaged, isManaged, decide_eq_true_eq, decide_eq_true_eq]
  exact SortedSet.mem_insert

/-- No name is a proper suffix of itself. -/
theorem HostName.text_notMem_properSuffixes (name : HostName) : name.text ∉ name.properSuffixes :=
  fun h => Nat.lt_irrefl _ (List.rel_of_pairwise_cons name.pairwise_suffixes h)

/-- The zone of a name is the same whether or not the name is managed. -/
theorem Store.zoneOf_addZone_text (s : Store) (name : HostName) :
    (s.addZone name.text).zoneOf name = s.zoneOf name := by
  have hsame (suffix : String) (hsuffix : suffix ∈ name.properSuffixes) :
      (s.addZone name.text).isManaged suffix = s.isManaged suffix := by
    have hne : suffix ≠ name.text := fun h => name.text_notMem_properSuffixes (h ▸ hsuffix)
    rw [Bool.eq_iff_iff, isManaged_addZone, or_iff_right hne]
  rw [zoneOf, zoneOf, ← List.head?_filter, ← List.head?_filter, List.filter_congr hsame]

namespace Create

/-- A result fails with a refusal exactly where that is the objection. -/
theorem Settles.eq_error_iff {α : Type} {objection : Option Refusal} {x : Except Refusal α}
    (h : Settles objection x) (refusal : Refusal) : x = .error refusal ↔ objection = some refusal := by
  cases objection with
  | some other =>
      rw [Settles] at h
      rw [h, Except.error.injEq, Option.some.injEq]
  | none =>
      obtain ⟨a, rfl⟩ := h
      constructor <;> rintro ⟨⟩

theorem orElse_ne_some {first rest : Option Refusal} {refusal : Refusal} (hfirst : first ≠ some refusal)
    (hrest : rest ≠ some refusal) : (first <|> rest) ≠ some refusal := by
  cases first with
  | some other => exact hfirst
  | none => exact hrest

namespace Request

variable (q : Request) (s : Store) (client : ClientId) (name : HostName) (zone : Option String)

theorem shallow?_eq_some_iff : q.shallow? name zone = some .hostNameTooShallow ↔
    name.labelCount < max 1 (max ((q.service.rules.longest name).elim 0 HostName.countLabels)
      (zone.elim 0 HostName.countLabels)) + 2 := by
  rw [shallow?]
  split
  · next h => exact ⟨fun _ => h, fun _ => rfl⟩
  · next h => exact ⟨fun hnone => (by cases hnone), fun hlt => absurd hlt h⟩

theorem orphan?_ne_tooShallow : q.orphan? s name zone ≠ some .hostNameTooShallow := by
  cases zone with
  | none => rintro ⟨⟩
  | some zone =>
      rw [orphan?, Option.bind_some]
      split <;> rintro ⟨⟩

theorem misread?_ne_tooShallow : q.misread? ≠ some .hostNameTooShallow := by
  intro h
  obtain ⟨declared, -, hdeclared⟩ := List.exists_of_findSome?_eq_some h
  have hparse : declared.parse ≠ .error .hostNameTooShallow := by
    rw [DeclaredAddress.parse]
    split <;> nofun
  rw [DeclaredAddress.objection?] at hdeclared
  split at hdeclared
  · cases hdeclared
  · next hrefused => exact hparse (hrefused.trans (congrArg _ (Option.some.inj hdeclared)))

theorem misaddressed?_ne_tooShallow : q.misaddressed? zone ≠ some .hostNameTooShallow := by
  cases zone <;> cases h : q.command.addresses <;> simp [misaddressed?, h]

theorem held?_ne_tooShallow : q.held? s client name ≠ some .hostNameTooShallow := by
  intro h
  obtain ⟨host, -, hhost⟩ := Option.map_eq_some_iff.1 h
  split at hhost <;> cases hhost

theorem purging?_ne_tooShallow : q.purging? s name zone ≠ some .hostNameTooShallow := by
  intro h
  obtain ⟨zone, -, hzone⟩ := Option.bind_eq_some_iff.1 h
  obtain ⟨domain, -, hdomain⟩ := Option.bind_eq_some_iff.1 hzone
  split at hdomain <;> cases hdomain

variable {q s client name}

/-- Only the depth of a name makes it too shallow. -/
theorem objection?_eq_tooShallow_iff (hclient : q.context.client = some client)
    (hname : HostName.parse q.command.hostName = .ok name) :
    q.objection? s = some .hostNameTooShallow ↔ q.shallow? name (s.zoneOf name) = some .hostNameTooShallow := by
  rw [objection?, hclient, hname]
  constructor
  · intro h
    refine Decidable.by_contra fun hdeep => ?_
    have hrest : (q.orphan? s name (s.zoneOf name) <|> (q.misread? <|> q.misaddressed? (s.zoneOf name)) <|>
        q.held? s client name <|> q.purging? s name (s.zoneOf name)) ≠ some .hostNameTooShallow :=
      orElse_ne_some (q.orphan?_ne_tooShallow s name _) (orElse_ne_some
        (orElse_ne_some q.misread?_ne_tooShallow (q.misaddressed?_ne_tooShallow _))
        (orElse_ne_some (q.held?_ne_tooShallow s client name) (q.purging?_ne_tooShallow s name _)))
    exact orElse_ne_some hdeep hrest h
  · intro h
    simp only [h]
    rfl

/-- What a request answers on a store does not depend on whether its own name is managed. -/
theorem answerOn_addZone_text (hname : HostName.parse q.command.hostName = .ok name) :
    q.answerOn (s.addZone name.text) = q.answerOn s := by
  have hzone : name.properSuffixes.find? (s.addZone name.text).isManaged = name.properSuffixes.find? s.isManaged :=
    s.zoneOf_addZone_text name
  rw [answerOn, answerOn, verdict, verdict]
  cases q.context.client with
  | none => rfl
  | some client =>
      simp only [hname, bind, Except.bind, hzone]
      rfl

end Request

/-- A create that nobody disturbs is refused as too shallow exactly where its name has fewer than two labels in front of
the longest of its public suffix, its last label and the zone it is under. That the name itself is a zone changes
nothing in the answer. -/
theorem createHost_managed_name {w : World} (hbuilt : w.store.Built) {surroundings : Surroundings}
    (hreach : ∀ call, surroundings.outage call = none) {q : Request} {client : ClientId} {name : HostName}
    (hclient : q.context.client = some client) (hname : HostName.parse q.command.hostName = .ok name) :
    let answer (w : World) := ((createHost q.service q.context q.ids q.command).run surroundings w).2
    (answer w = .error .hostNameTooShallow ↔
      name.labelCount < max 1 (max ((q.service.rules.longest name).elim 0 HostName.countLabels)
        ((w.store.zoneOf name).elim 0 HostName.countLabels)) + 2) ∧
      answer (w.edit (.addZone name.text)) = answer w := by
  intro answer
  have hanswer (w : World) : answer w = q.answerOn w.store := (run_work hreach q w).1
  constructor
  · rw [hanswer, ← q.shallow?_eq_some_iff, ← Request.objection?_eq_tooShallow_iff hclient hname]
    exact ((settles_verdict hbuilt.orderly q).map _).eq_error_iff _
  · rw [hanswer, hanswer]
    exact Request.answerOn_addZone_text hname

theorem check_apex : HostName.check "ns1.example.tld".toList = .ok () := by rfl

def apex : HostName := ⟨"ns1.example.tld", check_apex⟩

theorem createHost_managed_name_apex :
    Store.empty.Built ∧ (∀ call, Surroundings.calm.outage call = none) ∧
      let q := glued ⟨"TheRegistrar"⟩ []
      q.context.client = some ⟨"TheRegistrar"⟩ ∧ HostName.parse q.command.hostName = .ok apex ∧
        (q.work.run .calm (World.edit {} (.addZone apex.text))).2 = (q.work.run .calm {}).2 := by
  have hreach : ∀ call, Surroundings.calm.outage call = none := fun _ => rfl
  have hname : HostName.parse "ns1.example.tld" = .ok apex := by rfl
  exact ⟨.empty, hreach, rfl, hname, (createHost_managed_name .empty hreach rfl hname).2⟩

/-- The only zone of a store becomes a host, as it has two labels in front of its last. -/
theorem createHost_apex :
    (Store.empty.edit (.addZone apex.text)).Built ∧
      (Store.empty.edit (.addZone apex.text)).isManaged apex.text = true ∧
      let q := glued ⟨"TheRegistrar"⟩ []
      HostName.parse q.command.hostName = .ok apex ∧
        ∃ response, (q.work.run .calm { store := Store.empty.edit (.addZone apex.text) }).2 = .ok response := by
  refine ⟨.edit .empty _, by decide +kernel, by rfl, ?_⟩
  exact ⟨_, by rfl⟩

end Create

end Bailiwick
