import Bailiwick.Proofs.Create.Runs
import Bailiwick.Proofs.Records

/-!
Runs of creates whose queue is drained from time to time. No operation reads the queue, so a run goes on as it would
without the drains; what was drained and what still waits is, in order, what would wait without them.
-/

namespace Bailiwick

/-- A turn but for the queue that it met. -/
def Turn.bare (t : Turn) : Turn := { t with world := { t.world with queue := [] } }

/-- Steps of the same requests in the same order, which differ at most in the queues that they met. -/
def Likewise (steps steps' : List (Nat × Turn)) : Prop :=
  steps.map (Prod.map id Turn.bare) = steps'.map (Prod.map id Turn.bare)

namespace Likewise

variable {steps steps' more more' : List (Nat × Turn)}

theorem append (h : Likewise steps steps') (h' : Likewise more more') :
    Likewise (steps ++ more) (steps' ++ more') := by
  rw [Likewise, List.map_append, List.map_append, h, h']

/-- A condition that does not look at the queue selects the same steps. -/
theorem filter (h : Likewise steps steps') (p : Nat × Turn → Bool) (hp : p ∘ Prod.map id Turn.bare = p) :
    Likewise (steps.filter p) (steps'.filter p) := by
  have hfilter (l : List (Nat × Turn)) :
      (l.filter p).map (Prod.map id Turn.bare) = (l.map (Prod.map id Turn.bare)).filter p := by
    rw [List.filter_map, hp]
  rw [Likewise, hfilter, hfilter, h]

theorem flatMap_eq (h : Likewise steps steps') {β : Type} (f : Nat × Turn → List β)
    (hf : f ∘ Prod.map id Turn.bare = f) : steps.flatMap f = steps'.flatMap f := by
  have himage (l : List (Nat × Turn)) : (l.map (Prod.map id Turn.bare)).flatMap f = l.flatMap f := by
    rw [List.flatMap_map]
    exact congrArg (List.flatMap · l) hf
  rw [← himage, h, himage]

theorem fst_eq (h : Likewise steps steps') : steps.map Prod.fst = steps'.map Prod.fst := by
  have hfst (l : List (Nat × Turn)) : (l.map (Prod.map id Turn.bare)).map Prod.fst = l.map Prod.fst := List.map_map
  rw [← hfst, h, hfst]

theorem exists_mem (h : Likewise steps steps') {number : Nat} {turn : Turn} (hmem : (number, turn) ∈ steps) :
    ∃ turn', (number, turn') ∈ steps' ∧ turn'.bare = turn.bare := by
  have himage := List.mem_map_of_mem (f := Prod.map id Turn.bare) hmem
  rw [h] at himage
  obtain ⟨⟨number', turn'⟩, hmem', heq⟩ := List.mem_map.1 himage
  obtain ⟨rfl, hbare⟩ := Prod.mk.inj heq
  exact ⟨turn', hmem', hbare⟩

end Likewise

namespace Create

/-- What may happen at a registry of creates whose queue is drained from time to time. -/
inductive Happening where
  | act (act : Act)
  | drain

/-- What happens in a run but for the drains. -/
def acts (happenings : List Happening) : List Act :=
  happenings.filterMap fun happening =>
    match happening with
    | .act act => some act
    | .drain => none

/-- A registry of creates, and the names that were drained from its queue so far, the oldest first. -/
structure Session where
  registry : Registry (Except Refusal Response)
  drained : List HostName := []

/-- A session before its first request. -/
def session (w : World) : Session := { registry := opened w }

namespace Session

def happen (s : Session) : Happening → Session
  | .act act => { s with registry := s.registry.move act.move }
  | .drain =>
    let (world, names) := s.registry.world.drain
    { registry := { s.registry with world }, drained := s.drained ++ names }

def play (s : Session) (happenings : List Happening) : Session := happenings.foldl happen s

/-- The turns of a run in order, each with the number of the request that had it. -/
def turns (s : Session) : List Happening → List (Nat × Turn)
  | [] => []
  | .act act :: rest => (s.registry.turn? act.move).toList ++ (s.happen (.act act)).turns rest
  | .drain :: rest => (s.happen .drain).turns rest

/-- The turns of a run by which creates were committed. -/
def commits (s : Session) (happenings : List Happening) : List (Nat × Turn) :=
  (s.turns happenings).filter fun step => step.2.commits

/-- A session stands where a registry would stand had its queue never been drained. -/
def Shadows (s : Session) (r : Registry (Except Refusal Response)) : Prop :=
  ∃ queue, s.registry = { r with world := { r.world with queue } } ∧ s.drained ++ queue = r.world.queue

variable {s : Session} {r : Registry (Except Refusal Response)}

theorem Shadows.requests_eq (h : s.Shadows r) : s.registry.requests = r.requests := by
  obtain ⟨queue, hregistry, -⟩ := h
  rw [hregistry]

theorem Shadows.store_eq (h : s.Shadows r) : s.registry.world.store = r.world.store := by
  obtain ⟨queue, hregistry, -⟩ := h
  rw [hregistry]

theorem Shadows.activity_eq (h : s.Shadows r) : s.registry.world.activity = r.world.activity := by
  obtain ⟨queue, hregistry, -⟩ := h
  rw [hregistry]

/-- What was drained and what still waits is what would wait. -/
theorem Shadows.queue_eq (h : s.Shadows r) : s.drained ++ s.registry.world.queue = r.world.queue := by
  obtain ⟨queue, hregistry, hqueue⟩ := h
  rw [hregistry]
  exact hqueue

theorem Shadows.drain (h : s.Shadows r) : (s.happen .drain).Shadows r := by
  obtain ⟨queue, hregistry, hqueue⟩ := h
  refine ⟨[], ?_, ?_⟩
  · rw [happen, hregistry]
    rfl
  · rw [happen, hregistry, List.append_nil]
    exact hqueue

theorem Shadows.act (h : s.Shadows r) (act : Act) :
    (s.happen (.act act)).Shadows (r.move act.move) ∧
      Likewise (s.registry.turn? act.move).toList (r.turn? act.move).toList := by
  obtain ⟨registry, drained⟩ := s
  obtain ⟨queue, hregistry, hqueue⟩ := h
  obtain rfl : registry = { r with world := { r.world with queue } } := hregistry
  cases act with
  | edit e => exact ⟨⟨queue, rfl, hqueue⟩, rfl⟩
  | submit q => exact ⟨⟨queue, rfl, hqueue⟩, rfl⟩
  | turn k surroundings =>
      cases hk : r.requests[k]? with
      | none =>
          simp only [Session.happen, Act.move, Registry.move, Registry.turn?, hk]
          exact ⟨⟨queue, rfl, hqueue⟩, rfl⟩
      | some work =>
          cases work with
          | done value =>
              simp only [Session.happen, Act.move, Registry.move, Registry.turn?, hk, Work.advance]
              exact ⟨⟨queue, rfl, hqueue⟩, rfl⟩
          | step op next =>
              have hturn := Turn.after_withQueue ⟨r.world, surroundings, op⟩ queue
              have hleft := Turn.queue_after ⟨r.world, surroundings, op⟩
              simp only [Session.happen, Act.move, Registry.move, Registry.turn?, hk, Work.advance, hturn]
              refine ⟨⟨_, rfl, ?_⟩, rfl⟩
              rw [← List.append_assoc, hqueue]
              exact hleft.symm

theorem Shadows.play (h : s.Shadows r) (happenings : List Happening) :
    (s.play happenings).Shadows (r.play (moves (acts happenings))) ∧
      Likewise (s.turns happenings) (r.turns (moves (acts happenings))) := by
  induction happenings generalizing s r with
  | nil => exact ⟨h, rfl⟩
  | cons happening rest ih =>
      cases happening with
      | drain => exact ih h.drain
      | act act =>
          obtain ⟨hact, hturn⟩ := h.act act
          obtain ⟨hrest, hturns⟩ := ih hact
          exact ⟨hrest, hturn.append hturns⟩

end Session

variable (w : World) (happenings : List Happening)

/-- A run with drains, next to the run without them. -/
theorem shadows_session : ((session w).play happenings).Shadows ((opened w).play (moves (acts happenings))) ∧
    Likewise ((session w).turns happenings) ((opened w).turns (moves (acts happenings))) :=
  Session.Shadows.play ⟨w.queue, rfl, rfl⟩ happenings

end Create

end Bailiwick
