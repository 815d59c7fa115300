import Keyscan.Proofs.Execution.Failures
import Keyscan.Proofs.Execution.Sharing

/-!
The requests of enumerations over any store, turn by turn. A turn sends what `Enumeration.sends` says,
and nothing changes the settings of a cursor once it is open. So all that an enumeration ever sends,
repetitions included, asks for pages of the size in its settings (`Asked`), also when an advance runs
in one piece.
-/

set_option autoImplicit false

namespace Keyscan

variable {σ : Type}

namespace World

/-- The requests that a recorded store has received. -/
def requests (w : World (Recorded σ)) : List StatementRequest := w.store.history.requests

end World

namespace StoreClient

variable (client : StoreClient σ) (request : StatementRequest) (s : Recorded σ)

theorem requests_receive :
    (client.recorded.receive request s).history.requests = s.history.requests ++ [request] :=
  s.history.requests_append [.sent request]

theorem requests_answer :
    (client.recorded.answer request s).2.history.requests = s.history.requests := by
  change (s.history ++ [Happening.answered _]).requests = _
  rw [History.requests_append]
  exact List.append_nil _

end StoreClient

/-! ### What is recorded is what runs -/

namespace Enumeration

/-- What becomes of an enumeration and its world, without the history. -/
def forget {α : Type} (r : α × Enumeration × World (Recorded σ)) : α × Enumeration × World σ :=
  (r.1, r.2.1, r.2.2.forget)

theorem settled_forget (e : Enumeration) (outcome : TripOutcome) (w : World (Recorded σ)) :
    e.settled (outcome, w.forget) = forget (e.settled (outcome, w)) := by
  obtain ⟨_ | _, _⟩ | _ | _ := outcome <;> rfl

theorem receive_forget (client : StoreClient σ) (n a : Nat) (e : Enumeration)
    (w : World (Recorded σ)) :
    receive client n a e w.forget = forget (receive client.recorded n a e w) := by
  have forgets : w.forget.store = w.store.store := rfl
  have recorded : client.recorded.answer e.cursor.request w.store =
      ((client.answer e.cursor.request w.store.store).1,
        ⟨(client.answer e.cursor.request w.store.store).2,
          w.store.history ++ [.answered (client.answer e.cursor.request w.store.store).1]⟩) :=
    rfl
  rw [receive, receive, recorded, forgets]
  obtain ⟨_ | page, store⟩ := client.answer e.cursor.request w.store.store
  · simp only
    split <;> rfl
  · rfl

theorem proceed_forget (client : StoreClient σ) (fault : Row → Option ConversionError)
    (cancelled : Bool) (e : Enumeration) (w : World (Recorded σ)) :
    e.proceed client fault cancelled w.forget =
      forget (e.proceed client.recorded fault cancelled w) := by
  unfold proceed
  cases e.cursor.step cancelled with
  | ended | turn | finish | fetch | cancel => rfl
  | handOut record rest =>
      simp only [Cursor.handOut]
      cases e.cursor.query.materializer.materialize record with
      | error error => rfl
      | ok row =>
          simp only [Running.checked]
          cases fault row <;> rfl

/-- A turn does not depend on the history. -/
theorem turn_forget (client : StoreClient σ) (e : Enumeration) (w : World (Recorded σ)) (t : Turn) :
    e.turn client w.forget t = forget (e.turn client.recorded w t) := by
  unfold turn
  cases t with
  | go fault =>
      cases e.wait with
      | nothing => exact proceed_forget client fault false e w
      | answer n a => exact receive_forget client n a e w
      | pause n a => rfl
  | cancel =>
      cases e.wait with
      | nothing => exact proceed_forget client _ true e w
      | answer n a | pause n a => exact e.settled_forget _ w
  | drop =>
      cases e.wait with
      | nothing => rfl
      | answer n a | pause n a => exact e.settled_forget _ w

end Enumeration

/-- An advance with a conversion does not depend on the history either. -/
theorem Executor.nextAsWithin_forget {α : Type} (x : Executor σ)
    (convert : Row → Except ConversionError α) (signals : Signals) (steps : Nat)
    (r : Running (Recorded σ)) :
    x.nextAsWithin convert signals steps r.forget =
      (x.recorded.nextAsWithin convert signals steps r).map id Running.forget := by
  unfold nextAsWithin nextWithin
  rw [x.advanceFrom_forget]
  cases x.recorded.advanceFrom signals steps 0 r with
  | mk outcome after =>
      cases outcome with
      | item row =>
          simp only [Prod.map, id]
          cases convert row <;> rfl
      | ended | failed e | dropped | unfinished => rfl

namespace Enumeration

/-! ### One turn -/

/-- What a turn sends asks for the next page of the cursor. -/
theorem request_of_sends {e : Enumeration} {t : Turn} {request : StatementRequest}
    (mem : request ∈ e.sends t) : request = e.cursor.request := by
  obtain ⟨strategy, cursor, wait⟩ := e
  cases t with
  | go fault =>
      cases wait with
      | nothing =>
          simp only [sends] at mem
          split at mem
          · exact List.mem_singleton.1 mem
          all_goals cases mem
      | answer n a => cases mem
      | pause n a => exact List.mem_singleton.1 mem
  | cancel | drop => cases mem

/-- All that the store receives in a turn is what the turn sends. -/
theorem turn_requests (client : StoreClient σ) (e : Enumeration) (w : World (Recorded σ)) (t : Turn) :
    (e.turn client.recorded w t).2.2.requests = w.requests ++ e.sends t := by
  have proceeds := fun fault cancelled =>
    (proceed_apart client.recorded fault cancelled e w w).2.2
  have interrupted := fun i => (e.settled_apart (.interrupted i) w w).2.2
  have received := client.requests_receive e.cursor.request w.store
  have answered := client.requests_answer e.cursor.request w.store
  unfold turn sends World.requests
  cases t with
  | go fault =>
      cases e.wait with
      | nothing =>
          simp only
          rw [proceeds]
          cases e.cursor.step false with
          | fetch => exact received
          | ended | cancel | handOut record rest | turn | finish => exact (List.append_nil _).symm
      | answer n a =>
          simp only
          rw [(receive_apart rfl n a).2.2, answered, List.append_nil]
      | pause n a => exact received
  | cancel =>
      cases e.wait with
      | nothing =>
          simp only
          rw [proceeds]
          cases step : e.cursor.step true with
          | fetch => cases Cursor.quiet_of_fetch step
          | ended | cancel | handOut record rest | turn | finish => exact (List.append_nil _).symm
      | answer n a | pause n a =>
          simp only
          rw [interrupted, List.append_nil]
  | drop =>
      cases e.wait with
      | nothing => exact (List.append_nil _).symm
      | answer n a | pause n a =>
          simp only
          rw [interrupted, List.append_nil]

theorem settings_settled (e : Enumeration) (outcome : TripOutcome) (w : World σ) :
    (e.settled (outcome, w)).2.1.cursor.settings = e.cursor.settings := by
  obtain ⟨_ | _, _⟩ | _ | _ := outcome <;> rfl

theorem settings_receive (client : StoreClient σ) (n a : Nat) (e : Enumeration) (w : World σ) :
    (receive client n a e w).2.1.cursor.settings = e.cursor.settings := by
  unfold receive
  cases client.answer e.cursor.request w.store with
  | mk answer store =>
      cases answer with
      | ok page => rfl
      | error error =>
          simp only
          split
          · rfl
          · exact e.settings_settled _ _

theorem settings_proceed (client : StoreClient σ) (fault : Row → Option ConversionError)
    (cancelled : Bool) (e : Enumeration) (w : World σ) :
    (e.proceed client fault cancelled w).2.1.cursor.settings = e.cursor.settings := by
  unfold proceed
  cases e.cursor.step cancelled with
  | ended | turn | finish | fetch => rfl
  | cancel => exact e.settings_settled _ w
  | handOut record rest =>
      simp only [Cursor.handOut]
      cases e.cursor.query.materializer.materialize record with
      | error error => rfl
      | ok row =>
          simp only [Running.checked]
          cases fault row <;> rfl

/-- A turn leaves the settings as they are. -/
theorem settings_turn (client : StoreClient σ) (e : Enumeration) (w : World σ) (t : Turn) :
    (e.turn client w t).2.1.cursor.settings = e.cursor.settings := by
  unfold turn
  cases t with
  | go fault =>
      cases e.wait with
      | nothing => exact e.settings_proceed client fault false w
      | answer n a => exact e.settings_receive client n a w
      | pause n a => rfl
  | cancel =>
      cases e.wait with
      | nothing => exact e.settings_proceed client _ true w
      | answer n a | pause n a => exact e.settings_settled _ w
  | drop =>
      cases e.wait with
      | nothing => rfl
      | answer n a | pause n a => exact e.settings_settled _ w

/-! ### Turns and whole advances -/

/-- From a world to the next, an enumeration has kept its settings, and has asked for nothing but pages
of their size. -/
structure Asked (e : Enumeration) (w : World (Recorded σ))
    (next : Enumeration × World (Recorded σ)) : Prop where
  settings : next.1.cursor.settings = e.cursor.settings
  sent : ∃ sent, next.2.requests = w.requests ++ sent ∧
    ∀ request ∈ sent, request.limit = e.cursor.settings.pageSize

theorem turn_asked (client : StoreClient σ) (e : Enumeration) (w : World (Recorded σ)) (t : Turn) :
    e.Asked w (e.turn client.recorded w t).2 := by
  refine ⟨e.settings_turn client.recorded w t, _, e.turn_requests client w t, ?_⟩
  intro request mem
  rw [request_of_sends mem]
  rfl

theorem run_asked (client : StoreClient σ) (turns : List Turn) (e : Enumeration)
    (w : World (Recorded σ)) : e.Asked w (e.run client.recorded turns w).2 := by
  induction turns generalizing e w with
  | nil => exact ⟨rfl, [], (List.append_nil _).symm, nofun⟩
  | cons t more ih =>
      obtain ⟨kept, sent, received, sized⟩ := e.turn_asked client w t
      obtain ⟨kept', sent', received', sized'⟩ :=
        ih (e.turn client.recorded w t).2.1 (e.turn client.recorded w t).2.2
      rw [run_cons]
      refine ⟨kept'.trans kept, sent ++ sent', ?_, ?_⟩
      · rw [received', received, List.append_assoc]
      · rw [kept] at sized'
        exact List.forall_mem_append.2 ⟨sized, sized'⟩

/-- An advance in one piece is a run of turns. -/
theorem nextAsWithin_asked {α : Type} (x : Executor σ) (convert : Row → Except ConversionError α)
    (signals : Signals) (steps : Nat) (c : Cursor) (w : World (Recorded σ)) :
    (start x.strategy c).Asked w
      (start x.strategy (x.recorded.nextAsWithin convert signals steps ⟨c, w⟩).2.cursor,
        (x.recorded.nextAsWithin convert signals steps ⟨c, w⟩).2.world) := by
  obtain ⟨turns, ran⟩ := nextAsWithin_turns x.recorded convert signals steps c w
  have asked := run_asked x.client turns (start x.strategy c) w
  exact ran ▸ asked

end Enumeration

end Keyscan
