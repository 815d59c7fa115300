import Mathlib.Logic.Function.Basic
import Keyscan.Proofs.Compiled.Compilation
import Keyscan.Proofs.Execution.Turns
import Keyscan.Store.Memory

/-!
Enumerations that share a store. A turn depends on the world only through the store's answer
(`turn_apart`), and the store in memory answers by its tables alone while no failure is queued. So
each enumeration of a crew does what it does alone with its own turns, in whatever order all turns
come, and the store has received what each of them sends alone, interleaved.
-/

set_option autoImplicit false

namespace Keyscan

/-! ### Events with owners -/

section Own

variable {ι α : Type} [DecidableEq ι]

/-- The events of one owner, in order. -/
def own (i : ι) (events : List (ι × α)) : List α :=
  events.filterMap fun x => if x.1 = i then some x.2 else none

/-- Events of one owner. -/
def ownedBy (i : ι) (events : List α) : List (ι × α) := events.map (i, ·)

theorem own_append (i : ι) (first more : List (ι × α)) :
    own i (first ++ more) = own i first ++ own i more :=
  List.filterMap_append

theorem own_cons (i : ι) (x : α) (events : List (ι × α)) :
    own i ((i, x) :: events) = x :: own i events :=
  List.filterMap_cons_some (if_pos rfl)

theorem own_cons_other {i j : ι} (other : j ≠ i) (x : α) (events : List (ι × α)) :
    own i ((j, x) :: events) = own i events :=
  List.filterMap_cons_none (if_neg other)

theorem own_ownedBy (i : ι) (events : List α) : own i (ownedBy i events) = events := by
  induction events with
  | nil => rfl
  | cons x more ih =>
      change own i ((i, x) :: ownedBy i more) = x :: more
      rw [own_cons, ih]

theorem own_ownedBy_other {i j : ι} (other : j ≠ i) (events : List α) :
    own i (ownedBy j events) = [] := by
  rw [own, List.filterMap_eq_nil_iff]
  intro x mem
  obtain ⟨y, -, rfl⟩ := List.mem_map.1 mem
  exact if_neg other

omit [DecidableEq ι] in
theorem map_snd_ownedBy (i : ι) (events : List α) : (ownedBy i events).map Prod.snd = events := by
  rw [ownedBy, List.map_map]
  exact List.map_id _

end Own

/-! ### One turn in different worlds -/

variable {σ : Type}

namespace Enumeration

/-- The request that an enumeration sends when its turn comes, if it sends one. -/
def sends (e : Enumeration) : Turn → List StatementRequest
  | .go _ =>
      match e.wait with
      | .nothing =>
          match e.cursor.step false with
          | .fetch => [e.cursor.request]
          | .ended | .cancel | .handOut _ _ | .turn | .finish => []
      | .answer _ _ => []
      | .pause _ _ => [e.cursor.request]
  | .cancel | .drop => []

theorem settled_apart (e : Enumeration) (outcome : TripOutcome) (w w' : World σ) :
    (e.settled (outcome, w)).1 = (e.settled (outcome, w')).1 ∧
      (e.settled (outcome, w)).2.1 = (e.settled (outcome, w')).2.1 ∧
      (e.settled (outcome, w)).2.2.store = w.store := by
  obtain ⟨_ | _, _⟩ | _ | _ := outcome <;> exact ⟨rfl, rfl, rfl⟩

/-- A step of an advance that is not held up does not depend on the world, and the store receives the
request for a page if one is fetched. -/
theorem proceed_apart (client : StoreClient σ) (fault : Row → Option ConversionError)
    (cancelled : Bool) (e : Enumeration) (w w' : World σ) :
    (e.proceed client fault cancelled w).1 = (e.proceed client fault cancelled w').1 ∧
      (e.proceed client fault cancelled w).2.1 = (e.proceed client fault cancelled w').2.1 ∧
      (e.proceed client fault cancelled w).2.2.store =
        match e.cursor.step cancelled with
        | .fetch => client.receive e.cursor.request w.store
        | _ => w.store := by
  unfold proceed
  cases e.cursor.step cancelled with
  | ended | turn | finish | fetch => exact ⟨rfl, rfl, rfl⟩
  | cancel => exact e.settled_apart _ w w'
  | handOut record rest =>
      simp only [Cursor.handOut]
      cases e.cursor.query.materializer.materialize record with
      | error error => exact ⟨rfl, rfl, rfl⟩
      | ok row =>
          simp only [Running.checked]
          cases fault row <;> exact ⟨rfl, rfl, rfl⟩

/-- What is made of an answer depends on nothing else in the world. -/
theorem receive_apart {client : StoreClient σ} {e : Enumeration} {w w' : World σ}
    (same : (client.answer e.cursor.request w.store).1 =
      (client.answer e.cursor.request w'.store).1) (n a : Nat) :
    (receive client n a e w).1 = (receive client n a e w').1 ∧
      (receive client n a e w).2.1 = (receive client n a e w').2.1 ∧
      (receive client n a e w).2.2.store = (client.answer e.cursor.request w.store).2 := by
  unfold receive
  cases here : client.answer e.cursor.request w.store with
  | mk answer store =>
      cases there : client.answer e.cursor.request w'.store with
      | mk answer' store' =>
          rw [here, there] at same
          cases same
          cases answer with
          | ok page => exact ⟨rfl, rfl, rfl⟩
          | error error =>
              simp only
              split <;> exact ⟨rfl, rfl, rfl⟩

/-- A turn depends on the world only through the store's answer to the request. -/
theorem turn_apart {client : StoreClient σ} {e : Enumeration} {w w' : World σ}
    (same : (client.answer e.cursor.request w.store).1 =
      (client.answer e.cursor.request w'.store).1) (t : Turn) :
    (e.turn client w t).1 = (e.turn client w' t).1 ∧
      (e.turn client w t).2.1 = (e.turn client w' t).2.1 := by
  have proceeds := fun fault cancelled => proceed_apart client fault cancelled e w w'
  have interrupted := fun i => e.settled_apart (.interrupted i) w w'
  unfold turn
  cases t with
  | go fault =>
      cases e.wait with
      | nothing => exact ⟨(proceeds fault false).1, (proceeds fault false).2.1⟩
      | answer n a => exact ⟨(receive_apart same n a).1, (receive_apart same n a).2.1⟩
      | pause n a => exact ⟨rfl, rfl⟩
  | cancel =>
      cases e.wait with
      | nothing => exact ⟨(proceeds _ true).1, (proceeds _ true).2.1⟩
      | answer n a | pause n a => exact ⟨(interrupted .cancelled).1, (interrupted .cancelled).2.1⟩
  | drop =>
      cases e.wait with
      | nothing => exact ⟨rfl, rfl⟩
      | answer n a | pause n a => exact ⟨(interrupted .dropped).1, (interrupted .dropped).2.1⟩

end Enumeration

/-! ### The store in memory -/

namespace MemoryStore

/-- A store without queued failures answers by its tables alone, and stays as it is. -/
theorem answer_of_quiet {s : MemoryStore} (quiet : s.failures = []) (request : StatementRequest) :
    client.answer request s = (s.pageFor request, s) := by
  change answer request s = _
  rw [answer, quiet]

/-- What was received before does not matter to a page. -/
theorem pageFor_log (s : MemoryStore) (log : List StatementRequest) (request : StatementRequest) :
    ({ s with log } : MemoryStore).pageFor request = s.pageFor request :=
  rfl

/-- The store after more requests. -/
def hearing (s : MemoryStore) (sent : List StatementRequest) : MemoryStore :=
  { s with log := s.log ++ sent }

theorem hearing_nil (s : MemoryStore) : s.hearing [] = s := by
  rw [hearing, List.append_nil]

theorem hearing_append (s : MemoryStore) (first more : List StatementRequest) :
    (s.hearing first).hearing more = s.hearing (first ++ more) := by
  rw [hearing, hearing, hearing, List.append_assoc]

end MemoryStore

namespace Enumeration

/-- All that a turn does to a quiet store is to send its request. -/
theorem turn_hearing {w : World MemoryStore} (quiet : w.store.failures = []) (e : Enumeration)
    (t : Turn) :
    (e.turn MemoryStore.client w t).2.2.store = w.store.hearing (e.sends t) := by
  have proceeds := fun fault cancelled =>
    (proceed_apart MemoryStore.client fault cancelled e w w).2.2
  have interrupted := fun i => (e.settled_apart (.interrupted i) w w).2.2
  unfold turn sends
  cases t with
  | go fault =>
      cases e.wait with
      | nothing =>
          simp only
          rw [proceeds]
          cases e.cursor.step false with
          | fetch => rfl
          | ended | cancel | handOut record rest | turn | finish =>
              exact w.store.hearing_nil.symm
      | answer n a =>
          simp only
          rw [(receive_apart rfl n a).2.2, MemoryStore.answer_of_quiet quiet]
          exact w.store.hearing_nil.symm
      | pause n a => rfl
  | cancel =>
      cases e.wait with
      | nothing =>
          simp only
          rw [proceeds]
          cases step : e.cursor.step true with
          | fetch => cases Cursor.quiet_of_fetch step
          | ended | cancel | handOut record rest | turn | finish =>
              exact w.store.hearing_nil.symm
      | answer n a | pause n a =>
          simp only
          rw [interrupted]
          exact w.store.hearing_nil.symm
  | drop =>
      cases e.wait with
      | nothing => exact w.store.hearing_nil.symm
      | answer n a | pause n a =>
          simp only
          rw [interrupted]
          exact w.store.hearing_nil.symm

end Enumeration

/-! ### Crews -/

/-- Enumerations of any number in one world. -/
structure Crew (ι σ : Type) where
  enumerations : ι → Enumeration
  world : World σ

namespace Crew

variable {ι : Type} [DecidableEq ι]

/-- One enumeration has its turn. -/
def turn (client : StoreClient σ) (c : Crew ι σ) (i : ι) (t : Turn) :
    Option (Advance Row) × Crew ι σ :=
  let (outcome, e, world) := (c.enumerations i).turn client c.world t
  (outcome, ⟨Function.update c.enumerations i e, world⟩)

/-- Turns in a given order, with what they return and to whom. -/
def run (client : StoreClient σ) : List (ι × Turn) → Crew ι σ → List (ι × Advance Row) × Crew ι σ
  | [], c => ([], c)
  | (i, t) :: more, c =>
      let (outcome, c) := c.turn client i t
      let (outcomes, c) := run client more c
      (ownedBy i outcome.toList ++ outcomes, c)

/-- An enumeration of the crew alone with its turns, in a world of its own. -/
def alone (client : StoreClient σ) (c : Crew ι σ) (schedule : List (ι × Turn)) (i : ι)
    (w : World σ) : List (Advance Row) × Enumeration × World σ :=
  (c.enumerations i).run client (own i schedule) w

theorem enumerations_turn (client : StoreClient σ) (c : Crew ι σ) (i : ι) (t : Turn) :
    (c.turn client i t).2.enumerations i = ((c.enumerations i).turn client c.world t).2.1 :=
  Function.update_self i _ _

theorem enumerations_turn_other (client : StoreClient σ) (c : Crew ι σ) {i j : ι} (other : j ≠ i)
    (t : Turn) : (c.turn client j t).2.enumerations i = c.enumerations i :=
  Function.update_of_ne (Ne.symm other) _ _

/-- Alone, the first turn of an enumeration is the one that it has in the crew. -/
theorem alone_cons {c : Crew ι MemoryStore} (quiet : c.world.store.failures = []) (i : ι) (t : Turn)
    (more : List (ι × Turn)) {w : World MemoryStore} {earlier : List StatementRequest}
    (same : w.store = { c.world.store with log := earlier }) :
    ∃ w', w'.store = w.store.hearing ((c.enumerations i).sends t) ∧
      c.alone MemoryStore.client ((i, t) :: more) i w =
        ((c.turn MemoryStore.client i t).1.toList ++
          ((c.turn MemoryStore.client i t).2.alone MemoryStore.client more i w').1,
          ((c.turn MemoryStore.client i t).2.alone MemoryStore.client more i w').2) := by
  have quiet' : w.store.failures = [] := by
    rw [same]
    exact quiet
  have answers : (MemoryStore.client.answer (c.enumerations i).cursor.request w.store).1 =
      (MemoryStore.client.answer (c.enumerations i).cursor.request c.world.store).1 := by
    rw [MemoryStore.answer_of_quiet quiet', MemoryStore.answer_of_quiet quiet, same]
    exact MemoryStore.pageFor_log _ _ _
  obtain ⟨outcome, enumeration⟩ := Enumeration.turn_apart answers t
  refine ⟨((c.enumerations i).turn MemoryStore.client w t).2.2,
    Enumeration.turn_hearing quiet' _ t, ?_⟩
  rw [alone, alone, own_cons, enumerations_turn, ← enumeration, Enumeration.run_cons, outcome]
  rfl

/-- What a run sends, and what becomes of an enumeration that has its turns alone: it returns the
same, ends up the same, and sends what it has sent in the crew. -/
theorem run_alone (schedule : List (ι × Turn)) {c : Crew ι MemoryStore}
    (quiet : c.world.store.failures = []) :
    ∃ sent : List (ι × StatementRequest),
      (run MemoryStore.client schedule c).2.world.store =
        c.world.store.hearing (sent.map Prod.snd) ∧
      ∀ i (w : World MemoryStore) earlier, w.store = { c.world.store with log := earlier } →
        (c.alone MemoryStore.client schedule i w).1 =
            own i (run MemoryStore.client schedule c).1 ∧
          (c.alone MemoryStore.client schedule i w).2.1 =
            (run MemoryStore.client schedule c).2.enumerations i ∧
          (c.alone MemoryStore.client schedule i w).2.2.store = w.store.hearing (own i sent) := by
  induction schedule generalizing c with
  | nil =>
      refine ⟨[], c.world.store.hearing_nil.symm, ?_⟩
      intro i w earlier same
      exact ⟨rfl, rfl, w.store.hearing_nil.symm⟩
  | cons step more ih =>
      obtain ⟨j, t⟩ := step
      have heard : (c.turn MemoryStore.client j t).2.world.store =
          c.world.store.hearing ((c.enumerations j).sends t) :=
        (c.enumerations j).turn_hearing quiet t
      have quiet' : (c.turn MemoryStore.client j t).2.world.store.failures = [] := by
        rw [heard]
        exact quiet
      obtain ⟨sent, received, others⟩ := ih quiet'
      rw [heard] at received others
      refine ⟨ownedBy j ((c.enumerations j).sends t) ++ sent, ?_, ?_⟩
      · rw [List.map_append, map_snd_ownedBy, ← MemoryStore.hearing_append]
        exact received
      · intro i w earlier same
        rw [own_append]
        by_cases turn_comes : j = i
        · subst turn_comes
          obtain ⟨w', store, first⟩ := alone_cons quiet j t more same
          obtain ⟨outcomes, enumeration, after⟩ :=
            others j w' (earlier ++ (c.enumerations j).sends t) (by rw [store, same]; rfl)
          rw [first, outcomes, enumeration, after, store, MemoryStore.hearing_append, own_ownedBy]
          refine ⟨?_, rfl, rfl⟩
          rw [run, own_append, own_ownedBy]
        · obtain ⟨outcomes, enumeration, after⟩ := others i w earlier same
          rw [alone, enumerations_turn_other _ _ turn_comes] at outcomes enumeration after
          rw [alone, own_cons_other turn_comes, own_ownedBy_other turn_comes]
          refine ⟨?_, enumeration, after⟩
          rw [run, own_append, own_ownedBy_other turn_comes]
          exact outcomes

/-- Enumerations that share a store in memory, without queued failures, do not disturb each other. In
whatever order their turns come, each returns what it returns alone with its own turns, and ends with
the same cursor; and the store has received the requests that each of them sends alone, interleaved.
This covers any calls for the next row, whenever their signals come: they are turns, and bring the
same among the turns of others. -/
theorem run_undisturbed (c : Crew ι MemoryStore) (quiet : c.world.store.failures = []) :
    (∀ (schedule : List (ι × Turn)) (d : ι → Diagnostics),
      let (outcomes, shared) := c.run MemoryStore.client schedule
      let separate := fun i => c.alone MemoryStore.client schedule i ⟨c.world.store, d i⟩
      (∀ i, own i outcomes = (separate i).1 ∧ shared.enumerations i = (separate i).2.1) ∧
        ∃ sent : List (ι × StatementRequest),
          shared.world.store = c.world.store.hearing (sent.map Prod.snd) ∧
          ∀ i, (separate i).2.2.store = c.world.store.hearing (own i sent)) ∧
    ∀ (i : ι) (calls : List Call) (d : Diagnostics), (c.enumerations i).wait = .nothing →
      ∃ turns, ∀ schedule, own i schedule = turns →
        let (outcomes, shared) := c.run MemoryStore.client schedule
        let x : Executor MemoryStore := ⟨MemoryStore.client, (c.enumerations i).strategy⟩
        let (called, r) := x.calls calls ⟨(c.enumerations i).cursor, ⟨c.world.store, d⟩⟩
        own i outcomes = called.flatMap Advance.seen ∧
          shared.enumerations i = .start x.strategy r.cursor := by
  constructor
  · intro schedule d
    obtain ⟨sent, received, others⟩ := run_alone schedule quiet
    have own_run := fun i => others i ⟨c.world.store, d i⟩ c.world.store.log rfl
    refine ⟨fun i => ?_, sent, received, fun i => (own_run i).2.2⟩
    exact ⟨(own_run i).1.symm, (own_run i).2.1.symm⟩
  · intro i calls d idle
    obtain ⟨turns, ran⟩ := Enumeration.calls_turns
      ⟨MemoryStore.client, (c.enumerations i).strategy⟩ calls (c.enumerations i).cursor
      ⟨c.world.store, d⟩
    refine ⟨turns, fun schedule same => ?_⟩
    obtain ⟨sent, -, others⟩ := run_alone schedule quiet
    obtain ⟨outcomes, enumeration, -⟩ := others i ⟨c.world.store, d⟩ c.world.store.log rfl
    have here : c.enumerations i = .start (c.enumerations i).strategy (c.enumerations i).cursor := by
      rw [Enumeration.start, ← idle]
    rw [alone, same, here, ran] at outcomes enumeration
    exact ⟨outcomes.symm, enumeration.symm⟩

/-- A reader of letters page by page, and one that takes what it is given. -/
def twoReaders : Crew Bool MemoryStore where
  enumerations slow :=
    .start .once (.start (.compiled
      ⟨"Letter", "letters", [⟨"Name", "name", .string, false⟩], by decide, by decide, by decide⟩)
      ⟨if slow then some 1 else none, true⟩)
  world :=
    ⟨MemoryStore.empty.insertTable "letters"
      [.ofList [("name", .string "a")], .ofList [("name", .string "b")]], .start .silent⟩

/-- The slow reader is cancelled behind its first letter, and the other reads on. -/
def cancelledBetween : List (Bool × Turn) :=
  let go : Turn := .go fun _ => none
  [ (true, go), (false, go), (false, go), (true, go), (true, go), (false, go), (true, .cancel),
    (false, go) ]

theorem run_undisturbed_twoReaders :
    twoReaders.world.store.failures = [] ∧
      let (outcomes, shared) := twoReaders.run MemoryStore.client cancelledBetween
      let separate := fun slow =>
        twoReaders.alone MemoryStore.client cancelledBetween slow twoReaders.world
      (own true outcomes).length = 2 ∧ (own false outcomes).length = 2 ∧
        (∀ slow, own slow outcomes = (separate slow).1 ∧
          shared.enumerations slow = (separate slow).2.1) ∧
        shared.world.store.log.length = 2 := by
  refine ⟨rfl, by decide +kernel, by decide +kernel, ?_, by decide +kernel⟩
  exact ((twoReaders.run_undisturbed rfl).1 cancelledBetween fun _ => .start .silent).1

end Crew

end Keyscan
