import Keyscan.Proofs.Diagnostics
import Keyscan.Proofs.Execution.Turns

/-!
What an enumeration does to the counters. Every step of a cursor counts and notes what it does
(`Cursor.Accounts`): the round trips that are counted are the pages that it takes, and an end is
counted once, in the state that it leads to. A step that ends the enumeration is only taken while it
is not over, so turns of an enumeration account for it too, and with them all advances.
-/

set_option autoImplicit false

namespace Keyscan

/-- The number of enumerations counted that ended in a state. -/
def Metrics.ended (m : Metrics) : CursorState → Nat
  | .exhausted => m.enumerationsCompleted
  | .failed => m.enumerationsFailed
  | .cancelled => m.enumerationsCancelled
  | .notStarted | .fetching | .materializing => 0

namespace Cursor

/-- One if the enumeration has ended in a state. -/
def endedIn (c : Cursor) (s : CursorState) : Nat := if s.isTerminal ∧ c.state = s then 1 else 0

theorem endedIn_alive {c : Cursor} (alive : c.state.isTerminal = false) (s : CursorState) :
    c.endedIn s = 0 := by
  rw [endedIn, if_neg]
  rintro ⟨terminal, rfl⟩
  rw [terminal] at alive
  cases alive

/-- From one cursor and diagnostics to others, what is counted is what has happened. -/
structure Accounts (c : Cursor) (d : Diagnostics) (c' : Cursor) (d' : Diagnostics) : Prop where
  agrees : d.Agrees → d'.Agrees
  translated : d'.metrics.queriesTranslated = d.metrics.queriesTranslated
  compilations : d'.metrics.compilations = d.metrics.compilations
  cacheHits : d'.metrics.cacheHits = d.metrics.cacheHits
  pages : d'.metrics.roundTrips + c.pages = d.metrics.roundTrips + c'.pages
  ends : ∀ s, d'.metrics.ended s + c.endedIn s = d.metrics.ended s + c'.endedIn s

namespace Accounts

variable {c c' c'' : Cursor} {d d' d'' : Diagnostics}

theorem refl (c : Cursor) (d : Diagnostics) : Accounts c d c d :=
  ⟨id, rfl, rfl, rfl, rfl, fun _ => rfl⟩

theorem trans (first : Accounts c d c' d') (second : Accounts c' d' c'' d'') :
    Accounts c d c'' d'' where
  agrees := second.agrees ∘ first.agrees
  translated := second.translated.trans first.translated
  compilations := second.compilations.trans first.compilations
  cacheHits := second.cacheHits.trans first.cacheHits
  pages := by
    have before := first.pages
    have after := second.pages
    omega
  ends s := by
    have before := first.ends s
    have after := second.ends s
    omega

/-- A step that is noted accounts for itself when the counter of the event is what has changed. -/
theorem of_note (event : Event) (fields : List (String × String))
    (lookups : ∀ m, (event.counted m).queriesTranslated = m.queriesTranslated ∧
      (event.counted m).compilations = m.compilations ∧ (event.counted m).cacheHits = m.cacheHits)
    (pages : ∀ m, (event.counted m).roundTrips + c.pages = m.roundTrips + c'.pages)
    (ends : ∀ m s, (event.counted m).ended s + c.endedIn s = m.ended s + c'.endedIn s) :
    Accounts c d c' ((d.count event.counted).emit event fields) := by
  have metrics : ((d.count event.counted).emit event fields).metrics = event.counted d.metrics :=
    Diagnostics.metrics_emit _ _ _
  obtain ⟨translated, compilations, cacheHits⟩ := lookups d.metrics
  rw [← metrics] at translated compilations cacheHits
  refine ⟨fun agrees => agrees.note event fields, translated, compilations, cacheHits, ?_, ?_⟩
  · rw [metrics]
    exact pages d.metrics
  · intro s
    rw [metrics]
    exact ends d.metrics s

end Accounts

/-! ### Steps -/

section Steps

variable {c : Cursor}

theorem accounts_reportRetry (c : Cursor) (s : Strategy) (attempts : Nat) (e : StoreError)
    (d : Diagnostics) : c.Accounts d c (s.reportRetry attempts e d) :=
  .of_note .storeRetry _ (fun _ => ⟨rfl, rfl, rfl⟩) (fun _ => rfl) fun _ s => by cases s <;> rfl

variable (alive : c.state.isTerminal = false) (d : Diagnostics)
include alive

theorem accounts_beginFetch : c.Accounts d (c.beginFetch d).1 (c.beginFetch d).2 := by
  refine .of_note .queryExecuting _ (fun _ => ⟨rfl, rfl, rfl⟩) (fun _ => rfl) fun m s => ?_
  rw [endedIn_alive alive, endedIn_alive (c := (c.beginFetch d).1) rfl]
  rfl

theorem accounts_turn : c.Accounts d c.turn d := by
  refine ⟨id, rfl, rfl, rfl, rfl, fun s => ?_⟩
  rw [endedIn_alive alive, endedIn_alive (c := c.turn) rfl]

theorem accounts_acceptPage (page : Page) :
    c.Accounts d (c.acceptPage page d).1 (c.acceptPage page d).2 := by
  refine .of_note .roundTripCompleted _ (fun _ => ⟨rfl, rfl, rfl⟩) (fun m => ?_) fun m s => ?_
  · exact Nat.add_right_comm m.roundTrips 1 c.pages
  · rw [endedIn_alive alive, endedIn_alive (c := (c.acceptPage page d).1) rfl]
    cases s <;> rfl

/-- A step that ends the enumeration is counted in the state that it leads to. -/
theorem accounts_end {c' : Cursor} (event : Event) (fields : List (String × String))
    (pages : c'.pages = c.pages)
    (counted : ∀ m, event.counted m = { m with
      enumerationsCompleted := m.enumerationsCompleted + c'.endedIn .exhausted
      enumerationsFailed := m.enumerationsFailed + c'.endedIn .failed
      enumerationsCancelled := m.enumerationsCancelled + c'.endedIn .cancelled }) :
    c.Accounts d c' ((d.count event.counted).emit event fields) := by
  refine .of_note event fields (fun m => ?_) (fun m => ?_) fun m s => ?_
  · rw [counted]
    exact ⟨rfl, rfl, rfl⟩
  · rw [counted, pages]
  · rw [counted, endedIn_alive alive]
    cases s <;> rfl

theorem accounts_failFetch (e : StoreError) :
    c.Accounts d (c.failFetch e d).2.1 (c.failFetch e d).2.2 :=
  accounts_end alive d .storeFailed _ rfl fun _ => rfl

theorem accounts_failRecord (e : ConversionError) :
    c.Accounts d (c.failRecord e d).2.1 (c.failRecord e d).2.2 :=
  accounts_end alive d .materializationFailed _ rfl fun _ => rfl

theorem accounts_cancel : c.Accounts d (c.cancel d).2.1 (c.cancel d).2.2 :=
  accounts_end alive d .enumerationCancelled _ rfl fun _ => rfl

theorem accounts_finish : c.Accounts d (c.finish d).1 (c.finish d).2 :=
  accounts_end alive d .enumerationExhausted _ rfl fun _ => rfl

/-- A row that is handed out is counted, and a record that is none fails the enumeration. -/
theorem accounts_handOut (record : Record) (rest : List Record) :
    c.Accounts d (c.handOut record rest d).2.1 (c.handOut record rest d).2.2 := by
  have moved : c.Accounts d { c with buffer := rest, position := c.position + 1 } d :=
    ⟨id, rfl, rfl, rfl, rfl, fun _ => rfl⟩
  unfold handOut
  cases c.query.materializer.materialize record with
  | ok row =>
      refine moved.trans ⟨Diagnostics.Agrees.row, rfl, rfl, rfl, rfl, fun s => ?_⟩
      cases s <;> rfl
  | error e =>
      have failed := accounts_failRecord
        (c := { c with buffer := rest, position := c.position + 1 }) alive d
        ((e.withTable c.query.table).withPosition c.position)
      exact moved.trans failed

end Steps

/-- Handing out a row does not end the enumeration. -/
theorem alive_handOut {c next : Cursor} {record : Record} {rest : List Record} {row : Row}
    {d d' : Diagnostics} (alive : c.state.isTerminal = false)
    (handed : c.handOut record rest d = (.ok row, next, d')) : next.state.isTerminal = false := by
  unfold handOut at handed
  cases read : c.query.materializer.materialize record with
  | ok made =>
      rw [read] at handed
      cases handed
      exact alive
  | error e =>
      rw [read] at handed
      cases handed

/-- An enumeration that has a step to take is not over. -/
theorem alive_of_step {c : Cursor} {cancelled : Bool} (onward : c.step cancelled ≠ .ended) :
    c.state.isTerminal = false := by
  cases terminal : c.state.isTerminal with
  | false => rfl
  | true => exact absurd (step_over cancelled terminal) onward

end Cursor

variable {σ : Type}

/-! ### Turns -/

/-- Checking a row fails an enumeration that is not over. -/
theorem Running.checked_accounts (fault : Row → Option ConversionError)
    (result : Advance Row × Running σ)
    (alive : ∀ row, result.1 = .item row → result.2.cursor.state.isTerminal = false) :
    result.2.cursor.Accounts result.2.world.diagnostics (checked fault result).2.cursor
      (checked fault result).2.world.diagnostics := by
  obtain ⟨outcome, r⟩ := result
  cases outcome with
  | item row =>
      simp only [checked]
      cases fault row with
      | none => exact .refl _ _
      | some e => exact r.cursor.accounts_failRecord (alive row rfl) _ _
  | ended | failed e | dropped | unfinished => exact .refl _ _

namespace Enumeration

/-- While an advance is under way the enumeration is not over. -/
def Sound (e : Enumeration) : Prop := e.wait = .nothing ∨ e.cursor.state.isTerminal = false

/-- What a turn leads to accounts for itself, and is sound again. -/
def Accounts (c : Cursor) (d : Diagnostics) (next : Enumeration × World σ) : Prop :=
  c.Accounts d next.1.cursor next.2.diagnostics ∧ next.1.Sound

theorem settled_accounts (e : Enumeration) (outcome : TripOutcome) (w : World σ)
    (alive : e.cursor.state.isTerminal = false) :
    Accounts e.cursor w.diagnostics (e.settled (outcome, w)).2 := by
  rcases outcome with ⟨_ | _, _⟩ | _ | _
  · exact ⟨e.cursor.accounts_failFetch alive _ _, .inl rfl⟩
  · exact ⟨e.cursor.accounts_acceptPage alive _ _, .inl rfl⟩
  · exact ⟨e.cursor.accounts_cancel alive _, .inl rfl⟩
  · exact ⟨.refl _ _, .inl rfl⟩

theorem receive_accounts (client : StoreClient σ) (n a : Nat) (e : Enumeration) (w : World σ)
    (alive : e.cursor.state.isTerminal = false) :
    Accounts e.cursor w.diagnostics (receive client n a e w).2 := by
  unfold receive
  obtain ⟨answer, store⟩ := client.answer e.cursor.request w.store
  cases answer with
  | ok page => exact e.settled_accounts _ { w with store } alive
  | error error =>
      by_cases again : 0 < n ∧ e.strategy.repeats error = true
      · simp only [if_pos again]
        exact ⟨e.cursor.accounts_reportRetry _ _ _ _, .inr alive⟩
      · simp only [if_neg again]
        exact e.settled_accounts _ { w with store } alive

theorem proceed_accounts (client : StoreClient σ) (fault : Row → Option ConversionError)
    (cancelled : Bool) (e : Enumeration) (w : World σ) :
    Accounts e.cursor w.diagnostics (e.proceed client fault cancelled w).2 := by
  have alive (onward : e.cursor.step cancelled ≠ .ended) : e.cursor.state.isTerminal = false :=
    Cursor.alive_of_step onward
  unfold proceed
  cases step : e.cursor.step cancelled with
  | ended => exact ⟨.refl _ _, .inl rfl⟩
  | cancel => exact e.settled_accounts _ w (alive (by simp [step]))
  | fetch => exact ⟨e.cursor.accounts_beginFetch (alive (by simp [step])) _, .inr rfl⟩
  | handOut record rest =>
      have handed := e.cursor.accounts_handOut (alive (by simp [step])) w.diagnostics record rest
      cases result : e.cursor.handOut record rest w.diagnostics with
      | mk outcome next =>
          rw [result] at handed
          simp only [result]
          obtain ⟨cursor, diagnostics⟩ := next
          cases outcome with
          | error e => exact ⟨handed, .inl rfl⟩
          | ok row =>
              have checked := Running.checked_accounts fault
                (.item row, ⟨cursor, { w with diagnostics }⟩)
                fun _ _ => Cursor.alive_handOut (alive (by simp [step])) result
              exact ⟨handed.trans checked, .inl rfl⟩
  | turn => exact ⟨e.cursor.accounts_turn (alive (by simp [step])) _, .inl rfl⟩
  | finish => exact ⟨e.cursor.accounts_finish (alive (by simp [step])) _, .inl rfl⟩

/-- A turn accounts for what it does. -/
theorem turn_accounts (client : StoreClient σ) {e : Enumeration} (sound : e.Sound) (w : World σ)
    (t : Turn) : Accounts e.cursor w.diagnostics (e.turn client w t).2 := by
  have alive (held : e.wait ≠ .nothing) : e.cursor.state.isTerminal = false :=
    sound.resolve_left held
  unfold turn
  cases t with
  | go fault =>
      cases wait : e.wait with
      | nothing => exact e.proceed_accounts client fault false w
      | answer n a => exact e.receive_accounts client n a w (alive (by simp [wait]))
      | pause n a => exact ⟨.refl _ _, .inr (alive (by simp [wait]))⟩
  | cancel =>
      cases wait : e.wait with
      | nothing => exact e.proceed_accounts client _ true w
      | answer n a | pause n a => exact e.settled_accounts _ w (alive (by simp [wait]))
  | drop =>
      cases wait : e.wait with
      | nothing => exact ⟨.refl _ _, .inl wait⟩
      | answer n a | pause n a => exact e.settled_accounts _ w (alive (by simp [wait]))

/-- So do runs of turns. -/
theorem run_accounts (client : StoreClient σ) (turns : List Turn) {e : Enumeration}
    (sound : e.Sound) (w : World σ) :
    Accounts e.cursor w.diagnostics (e.run client turns w).2 := by
  induction turns generalizing e w with
  | nil => exact ⟨.refl _ _, sound⟩
  | cons t more ih =>
      obtain ⟨first, sound'⟩ := turn_accounts client sound w t
      obtain ⟨rest, sound''⟩ := ih sound' (e.turn client w t).2.2
      rw [run_cons]
      exact ⟨first.trans rest, sound''⟩

/-- An advance, with a conversion or without, accounts for itself. -/
theorem nextAsWithin_accounts {α : Type} (x : Executor σ)
    (convert : Row → Except ConversionError α) (signals : Signals) (steps : Nat) (c : Cursor)
    (w : World σ) :
    c.Accounts w.diagnostics (x.nextAsWithin convert signals steps ⟨c, w⟩).2.cursor
      (x.nextAsWithin convert signals steps ⟨c, w⟩).2.world.diagnostics := by
  obtain ⟨turns, ran⟩ := nextAsWithin_turns x convert signals steps c w
  have accounts := run_accounts x.client turns (e := start x.strategy c) (.inl rfl) w
  rw [ran] at accounts
  exact accounts.1

end Enumeration

end Keyscan
