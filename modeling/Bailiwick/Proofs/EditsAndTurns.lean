import Bailiwick.Proofs.Alone
import Bailiwick.Proofs.Turns

/-!
The deeds of a run: its edits and its turns in the order in which they were done. A version counts the deeds that
raised it. The work of one request goes through the deeds by the turns of that request alone; what the others do in
between are asides to it.
-/

namespace Bailiwick

namespace Store

/-- The key of which an edit raises the version. -/
def Edit.bump? : Edit → Option ReadKey
  | .addZone _ => none
  | .putDomain domain => some (.domain domain.name)
  | .putHost host => some (.host host.name.text)

/-- The key of which a write raises the version. -/
def Write.bump? : Write → Option ReadKey
  | .insertHost host => some (.host host.name.text)
  | _ => none

theorem version_putHost (s : Store) (host : Host) (key : ReadKey) :
    (s.putHost host).version key = s.version key + [ReadKey.host host.name.text].count key := by
  cases key with
  | host name =>
      rw [version, version, hostVersion_putHost]
      simp [List.count_singleton, eq_comm (a := name)]
  | domain name => simp [version, domainVersion, putHost]

theorem version_edit (s : Store) (e : Edit) (key : ReadKey) :
    (s.edit e).version key = s.version key + e.bump?.toList.count key := by
  cases e with
  | addZone zone => cases key <;> rfl
  | putHost host => exact s.version_putHost host key
  | putDomain domain =>
      cases key with
      | host name => simp [edit, Edit.bump?, version, hostVersion, putDomain]
      | domain name =>
          rw [edit, version, version, domainVersion_putDomain]
          simp [Edit.bump?, List.count_singleton, eq_comm (a := name)]

theorem version_apply (s : Store) (write : Write) (key : ReadKey) :
    (s.apply write).version key = s.version key + write.bump?.toList.count key := by
  cases write with
  | insertHost host => exact s.version_putHost host key
  | _ => cases key <;> rfl

theorem version_applyAll (s : Store) (writes : List Write) (key : ReadKey) :
    (s.applyAll writes).version key = s.version key + (writes.filterMap Write.bump?).count key := by
  induction writes generalizing s with
  | nil => rfl
  | cons write rest ih =>
      have hsplit : (write :: rest).filterMap Write.bump? = write.bump?.toList ++ rest.filterMap Write.bump? := by
        rw [List.filterMap_cons]
        cases write.bump? <;> rfl
      rw [hsplit, List.count_append, ← Nat.add_assoc, ← version_apply]
      exact ih (s.apply write)

end Store

/-- Something that was done to a world: an edit, or a turn of the request with a number. -/
inductive Deed where
  | edit (e : Store.Edit)
  | turn (number : Nat) (turn : Turn)

namespace Deed

/-- The turn of a deed, if it is one of the request with a number. -/
def own? (number : Nat) : Deed → Option Turn
  | .turn k t => if k = number then some t else none
  | .edit _ => none

@[simp] theorem own?_turn (number : Nat) (turn : Turn) : (Deed.turn number turn).own? number = some turn := if_pos rfl

theorem own?_eq_some {number : Nat} {deed : Deed} {turn : Turn} :
    deed.own? number = some turn ↔ deed = .turn number turn := by
  cases deed with
  | edit e => simp [own?]
  | turn k t =>
      by_cases hk : k = number
      · simp [own?, hk]
      · simp [own?, hk]

/-- The turns of one request among some deeds. -/
def turnsOf (number : Nat) (deeds : List Deed) : List Turn := deeds.filterMap (own? number)

theorem mem_turnsOf {number : Nat} {deeds : List Deed} {turn : Turn} :
    turn ∈ turnsOf number deeds ↔ Deed.turn number turn ∈ deeds := by
  simp [turnsOf, own?_eq_some]

@[simp] theorem turnsOf_append (number : Nat) (before rest : List Deed) :
    turnsOf number (before ++ rest) = turnsOf number before ++ turnsOf number rest := List.filterMap_append

/-- Deeds of others than the request with a number. -/
def Asides (number : Nat) (deeds : List Deed) : Prop := ∀ turn, Deed.turn number turn ∉ deeds

theorem asides_nil (number : Nat) : Asides number [] := fun _ => List.not_mem_nil

theorem asides_cons {number : Nat} {deed : Deed} {deeds : List Deed} :
    Asides number (deed :: deeds) ↔ deed.own? number = none ∧ Asides number deeds := by
  constructor
  · intro h
    refine ⟨Option.eq_none_iff_forall_ne_some.2 fun turn hturn => ?_, fun turn hmem => ?_⟩
    · exact h turn (own?_eq_some.1 hturn ▸ List.mem_cons_self)
    · exact h turn (List.mem_cons_of_mem _ hmem)
  · rintro ⟨hdeed, hrest⟩ turn hmem
    rcases List.mem_cons.1 hmem with rfl | hmem
    · simp at hdeed
    · exact hrest turn hmem

/-- The next turn of a request splits deeds at one place. -/
theorem Asides.split_unique {number : Nat} {asides before rest after : List Deed} {turn other : Turn}
    (hasides : Asides number asides)
    (h : asides ++ .turn number turn :: rest = before ++ .turn number other :: after) :
    (before = asides ∧ other = turn ∧ after = rest) ∨
      ∃ between, before = asides ++ .turn number turn :: between ∧ rest = between ++ .turn number other :: after := by
  rcases List.append_eq_append_iff.1 h with ⟨between, rfl, hsplit⟩ | ⟨between, rfl, hsplit⟩
  · cases between with
    | nil =>
        simp only [List.nil_append, List.cons.injEq, Deed.turn.injEq, true_and] at hsplit
        exact .inl ⟨List.append_nil asides, hsplit.1.symm, hsplit.2.symm⟩
    | cons deed between =>
        simp only [List.cons_append, List.cons.injEq] at hsplit
        obtain ⟨rfl, rfl⟩ := hsplit
        exact .inr ⟨between, rfl, rfl⟩
  · cases between with
    | nil =>
        simp only [List.nil_append, List.cons.injEq, Deed.turn.injEq, true_and] at hsplit
        exact .inl ⟨(List.append_nil before).symm, hsplit.1, hsplit.2⟩
    | cons deed between =>
        simp only [List.cons_append, List.cons.injEq] at hsplit
        exact absurd (hsplit.1 ▸ List.mem_append_right before List.mem_cons_self) (hasides other)

/-- The keys of which a deed raises the versions. -/
def bumps : Deed → List ReadKey
  | .edit e => e.bump?.toList
  | .turn _ t => t.writes.filterMap Store.Write.bump?

/-- The world that a deed leaves of another. -/
def after (w : World) : Deed → World
  | .edit e => w.edit e
  | .turn _ t => t.after

/-- A deed was done to a world. An edit can be done to any. -/
def Meets (w : World) : Deed → Prop
  | .edit _ => True
  | .turn _ t => t.world = w

theorem version_after {w : World} {deed : Deed} (h : deed.Meets w) (key : ReadKey) :
    (deed.after w).store.version key = w.store.version key + deed.bumps.count key := by
  cases deed with
  | edit e => exact w.store.version_edit e key
  | turn number turn =>
      obtain rfl : turn.world = w := h
      rw [after, turn.store_after]
      exact turn.world.store.version_applyAll turn.writes key

end Deed

/-- The world that deeds leave, one after the other. -/
def World.through (w : World) (deeds : List Deed) : World := deeds.foldl Deed.after w

@[simp] theorem World.through_nil (w : World) : w.through [] = w := rfl

@[simp] theorem World.through_cons (w : World) (deed : Deed) (deeds : List Deed) :
    w.through (deed :: deeds) = (deed.after w).through deeds := rfl

@[simp] theorem World.through_append (w : World) (before rest : List Deed) :
    w.through (before ++ rest) = (w.through before).through rest := List.foldl_append

/-- Each deed was done to the world that the deeds before it had left. -/
def Unbroken : World → List Deed → Prop
  | _, [] => True
  | w, deed :: rest => deed.Meets w ∧ Unbroken (deed.after w) rest

theorem unbroken_append {w : World} {before rest : List Deed} :
    Unbroken w (before ++ rest) ↔ Unbroken w before ∧ Unbroken (w.through before) rest := by
  induction before generalizing w with
  | nil => simp [Unbroken]
  | cons deed before ih => simp [Unbroken, ih, and_assoc]

/-- A turn among unbroken deeds met the world that the deeds before it had left. -/
theorem Unbroken.world_eq {w : World} {before after : List Deed} {number : Nat} {turn : Turn}
    (h : Unbroken w (before ++ .turn number turn :: after)) : turn.world = w.through before :=
  (unbroken_append.1 h).2.1

/-- A version counts the deeds that raised it. -/
theorem Unbroken.version_through {w : World} {deeds : List Deed} (h : Unbroken w deeds) (key : ReadKey) :
    (w.through deeds).store.version key = w.store.version key + (deeds.flatMap Deed.bumps).count key := by
  induction deeds generalizing w with
  | nil => rfl
  | cons deed deeds ih =>
      rw [World.through_cons, ih h.2, Deed.version_after h.1, List.flatMap_cons, List.count_append, Nat.add_assoc]

/-- A version has moved if and only if one of the deeds has raised it. -/
theorem Unbroken.version_through_eq_iff {w : World} {deeds : List Deed} (h : Unbroken w deeds) (key : ReadKey) :
    (w.through deeds).store.version key = w.store.version key ↔ ∀ deed ∈ deeds, key ∉ deed.bumps := by
  have hcount := h.version_through key
  rw [hcount, Nat.add_eq_left, List.count_eq_zero]
  simp

/-- What every deed respects holds from the first world to the last. -/
theorem Unbroken.rel_through {R : World → World → Prop} (hrefl : ∀ w, R w w)
    (htrans : ∀ {u v w : World}, R u v → R v w → R u w) {w : World} {deeds : List Deed} (h : Unbroken w deeds)
    (hdeeds : ∀ deed ∈ deeds, ∀ u, deed.Meets u → R u (deed.after u)) : R w (w.through deeds) := by
  induction deeds generalizing w with
  | nil => exact hrefl w
  | cons deed deeds ih =>
      have hrest : ∀ later ∈ deeds, ∀ u, later.Meets u → R u (later.after u) :=
        fun later hlater => hdeeds later (List.mem_cons_of_mem deed hlater)
      exact htrans (hdeeds deed List.mem_cons_self w h.1) (ih h.2 hrest)

/-- A deed is among what may go on in a company. -/
def Company.Allows (c : Company) : Deed → Prop
  | .edit e => ∀ w : World, c.changes w (w.edit e)
  | .turn _ turn => c.meets turn.surroundings ∧ c.changes turn.world turn.after

theorem Company.anyone_allows (deed : Deed) : Company.anyone.Allows deed := by
  cases deed with
  | edit e => exact fun w => w.store.later_edit e
  | turn number turn => exact ⟨trivial, turn.world.later_perform turn.surroundings turn.op⟩

theorem Company.Allows.changes {c : Company} {deed : Deed} (h : c.Allows deed) {w : World} (hw : deed.Meets w) :
    c.changes w (deed.after w) := by
  cases deed with
  | edit e => exact h w
  | turn number turn =>
      obtain rfl : turn.world = w := hw
      exact h.2

theorem Unbroken.changes {c : Company} {w : World} {deeds : List Deed} (h : Unbroken w deeds)
    (hdeeds : ∀ deed ∈ deeds, c.Allows deed) : c.changes w (w.through deeds) :=
  h.rel_through c.refl c.trans fun deed hdeed _ hu => (hdeeds deed hdeed).changes hu

theorem Unbroken.later {w : World} {deeds : List Deed} (h : Unbroken w deeds) :
    w.store.Later (w.through deeds).store :=
  h.changes (c := .anyone) fun deed _ => Company.anyone_allows deed

/-- What is done from a world on, deed after deed, is among what the request with a number may meet in a company. -/
def Company.Bears (c : Company) (number : Nat) : World → List Deed → Prop
  | _, [] => True
  | w, deed :: rest => (∀ turn, deed = .turn number turn → c.meets turn.surroundings) ∧ c.changes w (deed.after w) ∧
      c.Bears number (deed.after w) rest

namespace Company

variable {c : Company} {number : Nat} {w : World}

theorem bears_append {before rest : List Deed} : c.Bears number w (before ++ rest) ↔
    c.Bears number w before ∧ c.Bears number (w.through before) rest := by
  induction before generalizing w with
  | nil => simp [Bears]
  | cons deed before ih => simp [Bears, ih, and_assoc]

theorem Bears.changes {deeds : List Deed} (h : c.Bears number w deeds) : c.changes w (w.through deeds) := by
  induction deeds generalizing w with
  | nil => exact c.refl w
  | cons deed deeds ih => exact c.trans h.2.1 (ih h.2.2)

theorem Bears.meets {deeds : List Deed} (h : c.Bears number w deeds) {turn : Turn}
    (hturn : Deed.turn number turn ∈ deeds) : c.meets turn.surroundings := by
  induction deeds generalizing w with
  | nil => cases hturn
  | cons deed deeds ih =>
      rcases List.mem_cons.1 hturn with rfl | hlater
      · exact h.1 turn rfl
      · exact ih h.2.2 hlater

end Company

theorem Unbroken.bears {c : Company} {number : Nat} {w : World} {deeds : List Deed} (h : Unbroken w deeds)
    (hdeeds : ∀ deed ∈ deeds, c.Allows deed) : c.Bears number w deeds := by
  induction deeds generalizing w with
  | nil => trivial
  | cons deed deeds ih =>
      have hdeed := hdeeds deed List.mem_cons_self
      refine ⟨?_, hdeed.changes h.1, ih h.2 fun later hlater => hdeeds later (List.mem_cons_of_mem deed hlater)⟩
      rintro turn rfl
      exact hdeed.1

namespace Work

variable {α β : Type} {number : Nat}

/-- The work of the request with a number goes through some deeds, by its own turns, and other work is left. -/
inductive Takes (number : Nat) : Work α → List Deed → Work α → Prop where
  | refl (p : Work α) : Takes number p [] p
  | aside {p q : Work α} {deed : Deed} {deeds : List Deed} (hdeed : deed.own? number = none)
      (hrest : Takes number p deeds q) : Takes number p (deed :: deeds) q
  | step {op : Op} {next : op.Answer → Work α} {w : World} {surroundings : Surroundings} {deeds : List Deed}
      {q : Work α} (hrest : Takes number (next (w.perform surroundings op).2) deeds q) :
      Takes number (.step op next) (.turn number ⟨w, surroundings, op⟩ :: deeds) q

namespace Takes

theorem of_asides {p : Work α} {deeds : List Deed} (h : Deed.Asides number deeds) : p.Takes number deeds p := by
  induction deeds with
  | nil => exact .refl p
  | cons deed deeds ih =>
      obtain ⟨hdeed, hrest⟩ := Deed.asides_cons.1 h
      exact .aside hdeed (ih hrest)

theorem append {p q r : Work α} {before rest : List Deed} (h : p.Takes number before q)
    (h' : q.Takes number rest r) : p.Takes number (before ++ rest) r := by
  induction h with
  | refl p => exact h'
  | aside hdeed _ ih => exact .aside hdeed (ih h')
  | step _ ih => exact .step (ih h')

/-- Work that is done takes no more turns. -/
theorem of_done {value : α} {deeds : List Deed} {q : Work α} (h : (Work.done value).Takes number deeds q) :
    q = .done value ∧ Deed.Asides number deeds := by
  generalize hp : Work.done value = p at h
  induction h with
  | refl p => exact ⟨rfl, Deed.asides_nil number⟩
  | aside hdeed _ ih =>
      obtain ⟨hq, hasides⟩ := ih hp
      exact ⟨hq, Deed.asides_cons.2 ⟨hdeed, hasides⟩⟩
  | step _ _ => cases hp

/-- Work with an operation in front is done only after a turn for that operation. -/
theorem exists_turn {op : Op} {next : op.Answer → Work α} {value : α} {deeds : List Deed}
    (h : (Work.step op next).Takes number deeds (.done value)) :
    ∃ asides w surroundings rest, deeds = asides ++ .turn number ⟨w, surroundings, op⟩ :: rest ∧
      Deed.Asides number asides ∧ (next (w.perform surroundings op).2).Takes number rest (.done value) := by
  generalize hp : Work.step op next = p at h
  generalize hq : Work.done value = q at h
  induction h with
  | refl p => exact absurd (hp.trans hq.symm) (by simp)
  | @aside _ _ deed _ hdeed _ ih =>
      obtain ⟨asides, w, surroundings, rest, rfl, hasides, hrest⟩ := ih hp hq
      exact ⟨deed :: asides, w, surroundings, rest, rfl, Deed.asides_cons.2 ⟨hdeed, hasides⟩, hrest⟩
  | @step _ _ w surroundings deeds _ hrest _ =>
      cases hp
      subst hq
      exact ⟨[], w, surroundings, deeds, rfl, Deed.asides_nil number, hrest⟩

/-- Work in two parts is done when the first part is done and then the second. -/
theorem exists_bind {p : Work α} {f : α → Work β} {b : β} {deeds : List Deed}
    (h : (p >>= f).Takes number deeds (.done b)) :
    ∃ a before after, deeds = before ++ after ∧ p.Takes number before (.done a) ∧
      (f a).Takes number after (.done b) := by
  change (p.bind f).Takes number deeds (.done b) at h
  induction p generalizing deeds with
  | done a => exact ⟨a, [], deeds, rfl, .refl _, h⟩
  | step op next ih =>
      obtain ⟨asides, w, surroundings, rest, rfl, hasides, hrest⟩ := h.exists_turn
      obtain ⟨a, before, after, rfl, hbefore, hafter⟩ := ih _ hrest
      refine ⟨a, asides ++ .turn number ⟨w, surroundings, op⟩ :: before, after, ?_, ?_, hafter⟩
      · simp only [List.append_assoc, List.cons_append]
      · exact (of_asides hasides).append (.step hbefore)

/-- What work keeps of its operations and its value it keeps of its turns and of what is left of it. -/
theorem keeps {P : Op → Prop} {Q : α → Prop} {p q : Work α} {deeds : List Deed} (h : p.Takes number deeds q)
    (hp : p.Keeps P Q) : (∀ turn, Deed.turn number turn ∈ deeds → P turn.op) ∧ q.Keeps P Q := by
  induction h with
  | refl p => exact ⟨fun _ hmem => absurd hmem List.not_mem_nil, hp⟩
  | aside hdeed _ ih =>
      obtain ⟨hturns, hq⟩ := ih hp
      refine ⟨fun turn hmem => ?_, hq⟩
      rcases List.mem_cons.1 hmem with rfl | hmem
      · simp at hdeed
      · exact hturns turn hmem
  | step _ ih =>
      obtain ⟨hturns, hq⟩ := ih (hp.2 _)
      refine ⟨fun turn hmem => ?_, hq⟩
      rcases List.mem_cons.1 hmem with heq | hmem
      · cases heq
        exact hp.1
      · exact hturns turn hmem

/-- What work ensures in company is left to be ensured after deeds that the company bears. -/
theorem ensures {c : Company} {p q : Work α} {deeds : List Deed} (h : p.Takes number deeds q) {w : World}
    (hw : Unbroken w deeds) (hdeeds : c.Bears number w deeds) {Q : List Turn → World → α → Prop}
    (hp : p.Ensures c Q w) :
    q.Ensures c (fun more => Q ((Deed.turnsOf number deeds).flatMap Turn.mark ++ more)) (w.through deeds) := by
  induction h generalizing w Q with
  | refl p => exact hp
  | @aside _ _ deed deeds hdeed _ ih =>
      have hown : Deed.turnsOf number (deed :: deeds) = Deed.turnsOf number deeds := List.filterMap_cons_none hdeed
      rw [hown]
      exact ih hw.2 hdeeds.2.2 (hp.of_changes hdeeds.2.1)
  | @step op _ u surroundings deeds _ _ ih =>
      have hmeets : c.meets surroundings := hdeeds.1 _ rfl
      obtain rfl : u = w := hw.1
      have hown : Deed.turnsOf number (.turn number ⟨u, surroundings, op⟩ :: deeds)
          = ⟨u, surroundings, op⟩ :: Deed.turnsOf number deeds := List.filterMap_cons_some (Deed.own?_turn ..)
      rw [hown]
      simp only [List.flatMap_cons, List.append_assoc]
      exact ih hw.2 hdeeds.2.2 (hp u (c.refl u) surroundings hmeets)

/-- What work ensures in company holds of its turns, the last world and its value, once it is done. -/
theorem ensures_done {c : Company} {p : Work α} {value : α} {deeds : List Deed}
    (h : p.Takes number deeds (.done value)) {w : World} (hw : Unbroken w deeds) (hdeeds : c.Bears number w deeds)
    {Q : List Turn → World → α → Prop} (hp : p.Ensures c Q w) :
    Q ((Deed.turnsOf number deeds).flatMap Turn.mark) (w.through deeds) value := by
  have hend := h.ensures hw hdeeds hp _ (c.refl _)
  simpa only [List.append_nil] using hend

end Takes

end Work

namespace Registry

variable {α : Type}

/-- What a move does, if it does anything to the world. -/
def deed? (r : Registry α) : Move α → Option Deed
  | .edit e => some (.edit e)
  | m => (r.turn? m).map fun (number, turn) => .turn number turn

theorem deed?_turn (r : Registry α) (k : Nat) (surroundings : Surroundings) :
    r.deed? (.turn k surroundings) = (r.turn? (.turn k surroundings)).map fun (number, turn) => .turn number turn := rfl

/-- The deeds of a run in order. -/
def deeds (r : Registry α) : List (Move α) → List Deed
  | [] => []
  | m :: moves => (r.deed? m).toList ++ (r.move m).deeds moves

theorem deeds_append (r : Registry α) (before rest : List (Move α)) :
    r.deeds (before ++ rest) = r.deeds before ++ (r.play before).deeds rest := by
  induction before generalizing r with
  | nil => rfl
  | cons m before ih => simp only [List.cons_append, deeds, ih, List.append_assoc, play, List.foldl_cons]

/-- The turns of a run are those among its deeds. -/
theorem mem_deeds {r : Registry α} {moves : List (Move α)} {number : Nat} {turn : Turn} :
    Deed.turn number turn ∈ r.deeds moves ↔ (number, turn) ∈ r.turns moves := by
  induction moves generalizing r with
  | nil => simp [deeds, turns]
  | cons m moves ih =>
      have hfirst : Deed.turn number turn ∈ (r.deed? m).toList ↔ (number, turn) ∈ (r.turn? m).toList := by
        cases m with
        | edit e => simp [deed?, turn?]
        | submit work => simp [deed?, turn?]
        | turn k surroundings => simp [deed?]
      rw [deeds, turns, List.mem_append, List.mem_append, hfirst, ih]

/-- The edits of a run are among its moves. -/
theorem edit_mem_of_mem_deeds {r : Registry α} {moves : List (Move α)} {e : Store.Edit}
    (h : Deed.edit e ∈ r.deeds moves) : Move.edit e ∈ moves := by
  induction moves generalizing r with
  | nil => cases h
  | cons m moves ih =>
      rcases List.mem_append.1 h with hfirst | hrest
      · cases m with
        | edit e' =>
            simp only [deed?, Option.toList_some, List.mem_singleton, Deed.edit.injEq] at hfirst
            exact hfirst ▸ List.mem_cons_self
        | submit work => simp [deed?, turn?] at hfirst
        | turn k surroundings => simp [deed?] at hfirst
      · exact List.mem_cons_of_mem m (ih hrest)

theorem unbroken_move (r : Registry α) (m : Move α) :
    Unbroken r.world (r.deed? m).toList ∧ r.world.through (r.deed? m).toList = (r.move m).world := by
  cases m with
  | edit e => exact ⟨⟨trivial, trivial⟩, rfl⟩
  | submit work => exact ⟨trivial, rfl⟩
  | turn k surroundings =>
      rcases turn?_cases r k surroundings with ⟨hstay, hidle⟩ | ⟨op, next, hk⟩
      · rw [deed?_turn, hidle, hstay, Option.map_none, Option.toList_none]
        exact ⟨trivial, rfl⟩
      · have hturn : r.turn? (.turn k surroundings) = some (k, ⟨r.world, surroundings, op⟩) := by
          simp only [turn?, hk]
        rw [deed?_turn, hturn, move_turn hk, Option.map_some, Option.toList_some]
        exact ⟨⟨rfl, trivial⟩, rfl⟩

/-- The deeds of a run are unbroken and lead to its last world. -/
theorem unbroken_deeds (r : Registry α) (moves : List (Move α)) :
    Unbroken r.world (r.deeds moves) ∧ r.world.through (r.deeds moves) = (r.play moves).world := by
  induction moves generalizing r with
  | nil => exact ⟨trivial, rfl⟩
  | cons m moves ih =>
      obtain ⟨hfirst, hworld⟩ := r.unbroken_move m
      obtain ⟨hrest, hlast⟩ := ih (r.move m)
      rw [deeds, unbroken_append, World.through_append, hworld]
      exact ⟨⟨hfirst, hrest⟩, hlast⟩

theorem allows_of_mem_deeds {c : Company} {r : Registry α} {moves : List (Move α)}
    (hmoves : ∀ m ∈ moves, c.Admits m) : ∀ deed ∈ r.deeds moves, c.Allows deed := by
  induction moves generalizing r with
  | nil => exact fun _ h => absurd h List.not_mem_nil
  | cons m moves ih =>
      have hm := hmoves m List.mem_cons_self
      intro deed hdeed
      rcases List.mem_append.1 hdeed with hfirst | hrest
      · cases m with
        | edit e =>
            obtain rfl : deed = .edit e := by simpa [deed?, eq_comm] using hfirst
            exact hm
        | submit work => simp [deed?, turn?] at hfirst
        | turn k surroundings =>
            cases hk : r.requests[k]? with
            | none => simp [deed?, turn?, hk] at hfirst
            | some p =>
                cases p with
                | done value => simp [deed?, turn?, hk] at hfirst
                | step op next =>
                    obtain rfl : deed = .turn k ⟨r.world, surroundings, op⟩ := by
                      simpa [deed?, turn?, hk, eq_comm] using hfirst
                    exact ⟨hm.1, hm.2 r.world op⟩
      · exact ih (fun m' hm' => hmoves m' (List.mem_cons_of_mem m hm')) deed hrest

/-- In a run the work of a request goes through the deeds of the run. -/
theorem takes_play {r : Registry α} (moves : List (Move α)) {number : Nat} {p : Work α}
    (hp : r.requests[number]? = some p) :
    ∃ q, (r.play moves).requests[number]? = some q ∧ p.Takes number (r.deeds moves) q := by
  induction moves generalizing r p with
  | nil => exact ⟨p, hp, .refl p⟩
  | cons m moves ih =>
      suffices hfirst : ∃ p', (r.move m).requests[number]? = some p' ∧
          p.Takes number (r.deed? m).toList p' by
        obtain ⟨p', hp', htakes⟩ := hfirst
        obtain ⟨q, hq, hrest⟩ := ih hp'
        exact ⟨q, hq, htakes.append hrest⟩
      -- By its own turn the work goes on; every other move is an aside to it.
      by_cases hm : ∃ op next surroundings, p = .step op next ∧ m = .turn number surroundings
      · obtain ⟨op, next, surroundings, rfl, rfl⟩ := hm
        refine ⟨next (r.world.perform surroundings op).2, ?_, ?_⟩
        · rw [move_turn hp]
          exact List.getElem?_set_self (List.getElem?_eq_some_iff.1 hp).1
        · simp only [deed?, turn?, hp, Option.map_some, Option.toList_some]
          exact .step (.refl _)
      · obtain ⟨hstay, hother⟩ := getElem?_requests_move hp fun op next surroundings hop hm' =>
          hm ⟨op, next, surroundings, hop, hm'⟩
        refine ⟨p, hstay, .of_asides fun turn hmem => ?_⟩
        have hturn : (number, turn) ∈ r.turns [m] := mem_deeds.1 (by simpa [deeds] using hmem)
        exact hother turn (by simpa [turns] using hturn)

/-- Turns enough bring a request to its end. -/
theorem exists_done (surroundings : Surroundings) {r : Registry α} {number : Nat} {p : Work α}
    (hp : r.requests[number]? = some p) :
    ∃ count result,
      (r.play (List.replicate count (.turn number surroundings))).requests[number]? = some (.done result) := by
  induction p generalizing r with
  | done value => exact ⟨0, value, hp⟩
  | step op next ih =>
      have hnext : (r.move (.turn number surroundings)).requests[number]?
          = some (next (r.world.perform surroundings op).2) := by
        rw [move_turn hp]
        exact List.getElem?_set_self (List.getElem?_eq_some_iff.1 hp).1
      obtain ⟨count, result, hdone⟩ := ih _ hnext
      exact ⟨count + 1, result, hdone⟩

end Registry

end Bailiwick
