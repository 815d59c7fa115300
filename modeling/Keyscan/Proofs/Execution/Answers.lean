import Keyscan.Proofs.Execution.Recording

/-!
What runs keep of a store. Whatever requests keep of a store, received only or answered too, an
enumeration keeps of it, since requests are all that it makes of a store. So a store that answers every
request with a page that is right for it answers so throughout a run: `Executor.record_answered`.
-/

set_option autoImplicit false

namespace Keyscan

variable {σ : Type}

/-! ### Properties of stores -/

/-- Requests keep a property of the store, whether they are answered or not. -/
structure StoreClient.Keeps (client : StoreClient σ) (P : σ → Prop) : Prop where
  receive : ∀ request s, P s → P (client.receive request s)
  execute : ∀ request s, P s → P (client.execute request s).2

namespace StoreClient.Keeps

variable {client : StoreClient σ} {P : σ → Prop} (keeps : client.Keeps P)
include keeps

/-- An attempt keeps the property. -/
theorem attempt (signals : Signals) (request : StatementRequest) (time : Nat) {w : World σ}
    (holds : P w.store) : P (client.attempt signals request time w).2.store := by
  rw [StoreClient.attempt]
  cases signals.interruption? time (client.latency (client.receive request w.store)) with
  | some i => exact keeps.receive request w.store holds
  | none => exact keeps.execute request w.store holds

/-- So does a round trip, by induction on the repetitions that are left. -/
theorem trip (s : Strategy) (signals : Signals) (request : StatementRequest)
    (repetitions attempts time : Nat) {w : World σ} (holds : P w.store) :
    P (s.trip client signals request repetitions attempts time w).2.store := by
  induction repetitions generalizing attempts time w with
  | zero =>
      have attempted := keeps.attempt signals request time holds
      rw [Strategy.trip]
      generalize client.attempt signals request time w = result at attempted ⊢
      rcases result with ⟨⟨_ | _, _⟩ | _, _⟩ <;> exact attempted
  | succ repetitions ih =>
      have attempted := keeps.attempt signals request time holds
      rw [Strategy.trip]
      generalize client.attempt signals request time w = result at attempted ⊢
      rcases result with ⟨⟨e | page, later⟩ | i, next⟩
      · dsimp only
        split
        · cases signals.interruption? later (s.pause attempts) with
          | some i => exact attempted
          | none => exact ih (attempts + 1) (later + s.pause attempts) attempted
        · exact attempted
      · exact attempted
      · exact attempted

/-- So does a fetch. -/
theorem fetch (s : Strategy) (signals : Signals) (time : Nat) {r : Running σ}
    (holds : P r.world.store) :
    P ((⟨client, s⟩ : Executor σ).fetch signals time r).2.world.store := by
  have tripped := keeps.trip s signals r.cursor.request (s.ceiling r.cursor.request) 1 time
    (w := { r.world with diagnostics := (r.cursor.beginFetch r.world.diagnostics).2 }) holds
  rw [Executor.fetch_eq]
  change P (s.run client signals r.cursor.request time _).2.store at tripped
  generalize s.run client signals r.cursor.request time
    { r.world with diagnostics := (r.cursor.beginFetch r.world.diagnostics).2 } = result
    at tripped ⊢
  rcases result with ⟨⟨_ | _, _⟩ | _ | _, _⟩ <;> exact tripped

/-- So does an advance. -/
theorem advanceFrom (s : Strategy) (signals : Signals) (steps time : Nat) {r : Running σ}
    (holds : P r.world.store) :
    P ((⟨client, s⟩ : Executor σ).advanceFrom signals steps time r).2.world.store := by
  induction steps generalizing time r with
  | zero => exact holds
  | succ steps ih =>
      rw [Executor.advanceFrom]
      cases r.cursor.step (signals.cancelledBefore time) with
      | ended => exact holds
      | cancel => exact holds
      | fetch =>
          have fetched := keeps.fetch s signals time holds
          dsimp only
          generalize (⟨client, s⟩ : Executor σ).fetch signals time r = result at fetched ⊢
          rcases result with ⟨outcome | later, next⟩
          · exact fetched
          · exact ih later fetched
      | handOut record rest => exact holds
      | turn => exact ih time holds
      | finish => exact holds

end StoreClient.Keeps

/-! ### Answers -/

/-- Every page answers the request sent before it, and is right for that. -/
def History.Answered (Right : StatementRequest → Page → Prop) (h : History) : Prop :=
  ∀ before page after, h = before ++ .answered (.ok page) :: after →
    ∃ earlier request, before = earlier ++ [.sent request] ∧ Right request page

namespace History.Answered

variable {Right : StatementRequest → Page → Prop} {h : History}

/-- A history goes on with something that is no page, or with a page that is right. -/
theorem concat (answered : h.Answered Right) {happening : Happening}
    (right : ∀ page, happening = .answered (.ok page) →
      ∃ earlier request, h = earlier ++ [.sent request] ∧ Right request page) :
    (h ++ [happening]).Answered Right := by
  intro before page after parts
  obtain ⟨rfl, same⟩ | ⟨rest, earlier⟩ := parts_of_concat parts
  · exact right page same
  · exact answered before page rest earlier

theorem sent (answered : h.Answered Right) (request : StatementRequest) :
    (h ++ [Happening.sent request]).Answered Right :=
  answered.concat nofun

theorem returned (answered : h.Answered Right) (outcome : Advance Row) :
    (h ++ [Happening.returned outcome]).Answered Right :=
  answered.concat nofun

end History.Answered

/-- A store whose pages are right gives right answers when it is recorded. -/
theorem StoreClient.Keeps.recorded {client : StoreClient σ} {P : σ → Prop}
    (keeps : client.Keeps P) {Right : StatementRequest → Page → Prop}
    (right : ∀ request s page, P s → (client.execute request s).1 = .ok page →
      Right request page) :
    client.recorded.Keeps fun s => P s.store ∧ s.history.Answered Right where
  receive request s := fun ⟨holds, answered⟩ =>
    ⟨keeps.receive request s.store holds, answered.sent request⟩
  execute request s := fun ⟨holds, answered⟩ =>
    ⟨keeps.execute request s.store holds, (answered.sent request).concat fun page given =>
      ⟨s.history, request, rfl, right request s.store page holds (Happening.answered.inj given)⟩⟩

/-- Over a store whose pages are right every page of a run is right for its request. -/
theorem Executor.record_answered (x : Executor σ) {P : σ → Prop} (keeps : x.client.Keeps P)
    {Right : StatementRequest → Page → Prop}
    (right : ∀ request s page, P s → (x.client.execute request s).1 = .ok page →
      Right request page)
    (calls : List Call) (r : Running σ) (holds : P r.world.store) :
    (x.record calls r.observed).history.Answered Right := by
  have kept (calls : List Call) (r : Running (Recorded σ))
      (start : P r.world.store.store ∧ r.history.Answered Right) :
      P (x.record calls r).world.store.store ∧ (x.record calls r).history.Answered Right := by
    induction calls generalizing r with
    | nil => exact start
    | cons call more ih =>
        obtain ⟨holds, answered⟩ :=
          (keeps.recorded right).advanceFrom x.strategy call.signals (call.extra + 1) 0 start
        exact ih (x.recordCall r call) ⟨holds, History.Answered.returned answered _⟩
  have none_yet : History.Answered Right [] := by
    intro before page after parts
    cases before <;> cases parts
  exact (kept calls r.observed ⟨holds, none_yet⟩).2

end Keyscan
