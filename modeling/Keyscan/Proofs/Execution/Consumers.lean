import Keyscan.Proofs.Diagnostics
import Keyscan.Proofs.Execution.Requests

/-!
Three ways to use up an enumeration: advancing by hand, receiving a stream, and collecting all items.
`Executor.advances` is what a caller sees who keeps advancing, whatever comes; the other two stop by
themselves, and give no more and no less than the advances up to there. All are compared for any number
of advances and of steps, among them the numbers that `stream` and `collect` compute.

They agree because an end or an error leaves a cursor that is over (`Advance.Leaves`), so that a caller
who goes on after it is told of nothing but the end. An error of a conversion is no exception, though
it is only known when the cursor has gone past the record.
-/

set_option autoImplicit false

namespace Keyscan

variable {σ α : Type}

/-! ### Advancing by hand -/

/-- Whether an advance has returned to its caller. -/
def Advance.returns : Advance α → Bool
  | .item _ | .ended | .failed _ => true
  | .dropped | .unfinished => false

/-- The outcomes of so many advances, each with the signals of its number. -/
def Executor.advances (x : Executor σ) (convert : Row → Except ConversionError α)
    (signals : Nat → Signals) (steps : Nat) :
    (count made : Nat) → Running σ → List (Advance α) × Running σ
  | 0, _, r => ([], r)
  | count + 1, made, r =>
      let (outcome, r) := x.nextAsWithin convert (signals made) steps r
      let (more, r) := advances x convert signals steps count (made + 1) r
      (outcome :: more, r)

/-- How outcomes go on behind their items: what a stream gives there, and what collecting the items
comes to. -/
inductive Advance.Behind (items : List α) :
    List (Advance α) → List (Except ExecutionError α) → Except ExecutionError (List α) → Prop
  /-- No more advances are made. -/
  | going : Behind items [] [] (.ok items)
  | ended (more : Nat) : Behind items (.ended :: List.replicate more .ended) [] (.ok items)
  | failed (e : ExecutionError) (more : Nat) :
      Behind items (.failed e :: List.replicate more .ended) [.error e] (.error e)
  /-- An advance has not returned, so a stream gives nothing yet, and collecting has come this far. -/
  | waiting {outcome : Advance α} (waits : outcome.returns = false) (more : List (Advance α)) :
      Behind items (outcome :: more) [] (.ok items)

/-- An item in front changes nothing behind the items. -/
theorem Advance.Behind.cons {items : List α} {rest : List (Advance α)}
    {tail : List (Except ExecutionError α)} {result : Except ExecutionError (List α)}
    (behind : Behind items rest tail result) (y : α) :
    Behind (y :: items) rest tail (result.map (y :: ·)) := by
  cases behind with
  | going => exact .going
  | ended more => exact .ended more
  | failed e more => exact .failed e more
  | waiting waits more => exact .waiting waits more

/-- A record is delivered as the row that it is materialized as. -/
theorem CompiledQuery.materialize_of_deliver (q : CompiledQuery) {position : Nat} {record : Record}
    {row : Row} (delivered : q.deliver position record = .ok row) :
    q.materializer.materialize record = .ok row := by
  rw [deliver] at delivered
  cases made : q.materializer.materialize record with
  | ok row =>
      rw [made] at delivered
      cases delivered
      rfl
  | error e =>
      rw [made] at delivered
      cases delivered

/-! ### What one advance leaves -/

/-- What an outcome says of the cursor: an item is one record further in the same query, and behind the
end and behind an error the enumeration is over. -/
def Advance.Leaves (before : Cursor) : Advance α → Cursor → Prop
  | .item _, after => after.query = before.query ∧ after.position = before.position + 1
  | .ended, after | .failed _, after => after.state.isTerminal = true
  | .dropped, _ | .unfinished, _ => True

namespace Executor

variable (x : Executor σ)

/-- An advance leaves what its outcome says. -/
theorem nextWithin_leaves (signals : Signals) (steps : Nat) (r : Running σ) :
    (x.nextWithin signals steps r).1.Leaves r.cursor (x.nextWithin signals steps r).2.cursor := by
  have left := x.advanceFrom_induction signals
    (P := fun _ c _ => c.query = r.cursor.query ∧ c.position = r.cursor.position)
    (Q := fun o c _ => o.Leaves r.cursor c)
    (fun kept move => by cases move <;> exact kept)
    (fun kept move => by
      cases move with
      | ended terminal => exact terminal
      | row ready front read => exact ⟨kept.1, congrArg (· + 1) kept.2⟩
      | dropFetch alive awaiting comes trip => trivial
      | cancel alive comes => rfl
      | failFetch alive awaiting trip => rfl
      | cancelFetch alive awaiting comes trip => rfl
      | failRecord ready front read => rfl
      | finish ready empty last => rfl)
    (fun _ => trivial) steps 0 (r := r.observed) ⟨rfl, rfl⟩
  have advance := x.advanceFrom_forget signals steps 0 r.observed
  rw [Running.forget_observed] at advance
  rw [nextWithin, advance]
  exact left

/-- So does one with a conversion: a row that is refused is an error like any other. -/
theorem nextAsWithin_leaves (convert : Row → Except ConversionError α) (signals : Signals)
    (steps : Nat) (r : Running σ) :
    (x.nextAsWithin convert signals steps r).1.Leaves r.cursor
      (x.nextAsWithin convert signals steps r).2.cursor := by
  have leaves := x.nextWithin_leaves signals steps r
  rw [nextAsWithin]
  generalize x.nextWithin signals steps r = result at leaves ⊢
  obtain ⟨outcome, next⟩ := result
  cases outcome with
  | item row =>
      cases converted : convert row with
      | ok y =>
          simp only [converted]
          exact leaves
      | error e =>
          simp only [converted]
          rfl
  | ended | failed e | dropped | unfinished => exact leaves

/-- Without a step no advance returns. -/
theorem exists_steps (convert : Row → Except ConversionError α) {signals : Signals} {steps : Nat}
    {r next : Running σ} {outcome : Advance α}
    (advanced : x.nextAsWithin convert signals steps r = (outcome, next))
    (returns : outcome.returns = true) : ∃ fewer, steps = fewer + 1 := by
  cases steps with
  | zero =>
      cases advanced
      cases returns
  | succ fewer => exact ⟨fewer, rfl⟩

/-- Who goes on when an enumeration is over is told of the end, and nothing changes. -/
theorem advances_over (convert : Row → Except ConversionError α) (signals : Nat → Signals)
    (steps count made : Nat) {r : Running σ} (terminal : r.cursor.state.isTerminal = true) :
    x.advances convert signals (steps + 1) count made r = (List.replicate count .ended, r) := by
  induction count generalizing made with
  | zero => rfl
  | succ count ih =>
      have ended : x.nextAsWithin convert (signals made) (steps + 1) r = (.ended, r) := by
        rw [nextAsWithin, nextWithin, x.advanceFrom_over steps (signals made) 0 terminal]
      rw [advances, ended]
      simp only [ih]
      rfl

/-! ### Streams and lists -/

/-- What a stream gives and what collecting comes to, said by the outcomes of the advances. All three
leave the same behind, unless an advance has not returned: only who advances by hand can go on. -/
theorem exists_items (convert : Row → Except ConversionError α) (signals : Nat → Signals)
    (steps count made : Nat) (r : Running σ) :
    ∃ items rest tail result after,
      (x.advances convert signals steps count made r).1 = items.map .item ++ rest ∧
      Advance.Behind items rest tail result ∧
      x.streamWithin convert signals steps count made r = (items.map .ok ++ tail, after) ∧
      x.collectWithin convert signals steps count made r = (result, after) ∧
      ((∀ outcome ∈ rest, outcome.returns = true) →
        (x.advances convert signals steps count made r).2 = after) := by
  induction count generalizing made r with
  | zero => exact ⟨[], [], [], .ok [], r, rfl, .going, rfl, rfl, fun _ => rfl⟩
  | succ count ih =>
      rw [advances, streamWithin, collectWithin]
      cases advanced : x.nextAsWithin convert (signals made) steps r with
      | mk outcome next =>
          have leaves := x.nextAsWithin_leaves convert (signals made) steps r
          rw [advanced] at leaves
          cases outcome with
          | item y =>
              obtain ⟨items, rest, tail, result, after, outcomes, behind, streamed, collected, left⟩ :=
                ih (made + 1) next
              refine ⟨y :: items, rest, tail, result.map (y :: ·), after, ?_, behind.cons y, ?_, ?_,
                left⟩
              · simp only [outcomes]
                rfl
              · simp only [streamed]
                rfl
              · simp only [collected]
          | ended =>
              obtain ⟨fewer, rfl⟩ := x.exists_steps convert advanced rfl
              simp only [x.advances_over convert signals fewer count (made + 1) leaves]
              exact ⟨[], _, [], .ok [], next, rfl, .ended count, rfl, rfl, fun _ => rfl⟩
          | failed e =>
              obtain ⟨fewer, rfl⟩ := x.exists_steps convert advanced rfl
              simp only [x.advances_over convert signals fewer count (made + 1) leaves]
              exact ⟨[], _, [.error e], .error e, next, rfl, .failed e count, rfl, rfl, fun _ => rfl⟩
          | dropped | unfinished =>
              refine ⟨[], _, [], .ok [], next, rfl, .waiting rfl _, rfl, rfl, fun returns => ?_⟩
              cases returns _ List.mem_cons_self

/-! ### Rows that cannot be converted -/

/-- A row that a conversion refuses ends the enumeration: the error is placed at the query's table and
at the record's position, whatever it said before, and the rest of the page is dropped. Who goes on is
told of the end, with any conversion. -/
theorem nextAsWithin_refused {convert : Row → Except ConversionError α} {signals : Signals}
    {steps : Nat} {r next : Running σ} {row : Row} {e : ConversionError}
    (given : x.nextWithin signals steps r = (.item row, next)) (refused : convert row = .error e) :
    ∃ d, d.metrics = { next.world.diagnostics.metrics with
          enumerationsFailed := next.world.diagnostics.metrics.enumerationsFailed + 1 } ∧
      x.nextAsWithin convert signals steps r =
        (.failed (.materializationFailed
          { e with table := some r.cursor.query.table, position := some r.cursor.position }),
          ⟨{ next.cursor with state := .failed, buffer := [] }, next.world.store, d⟩) := by
  have leaves := x.nextWithin_leaves signals steps r
  rw [given] at leaves
  have query : next.cursor.query = r.cursor.query := leaves.1
  have position : next.cursor.position = r.cursor.position + 1 := leaves.2
  have placed : (e.withTable next.cursor.query.table).withPosition (next.cursor.position - 1) =
      { e with table := some r.cursor.query.table, position := some r.cursor.position } := by
    rw [query, position]
    rfl
  simp only [nextAsWithin, given, refused, placed]
  refine ⟨_, ?_, rfl⟩
  simp only [Cursor.failRecord, Diagnostics.metrics_emit]
  rfl

/-- The row that an enumeration gives next is that of the record at its position among all records
received. -/
theorem exists_record (q : CompiledQuery) (settings : CursorSettings) (resume : Option String)
    (w : World σ) (calls : List Call) (call : Call) {row : Row} {next : Running σ} :
    let r := x.record calls (Running.observed ⟨.startAt q settings resume, w⟩)
    x.nextWithin call.signals (call.extra + 1) r.forget = (.item row, next) →
    ∃ record, (x.recordCall r call).history.records[r.cursor.position]? = some record ∧
      q.materializer.materialize record = .ok row := by
  intro r given
  have stands := x.record_stands q settings resume w calls
  have advance := x.advanceFrom_forget call.signals (call.extra + 1) 0 r
  have outcome : (x.recorded.advanceFrom call.signals (call.extra + 1) 0 r).1 = .item row :=
    (congrArg Prod.fst advance).symm.trans (congrArg Prod.fst given)
  have read := x.advanceFrom_induction call.signals
    (P := fun _ c h => Cursor.Stands x.strategy q settings resume
      (fun i => ∃ call ∈ calls, call.signals.Comes i) c h ∧ c.position = r.cursor.position)
    (Q := fun o _ h => ∀ row, o = .item row →
      ∃ record, h.records[r.cursor.position]? = some record ∧
        q.materializer.materialize record = .ok row)
    (fun kept move => ⟨kept.1.onward move, by cases move <;> exact kept.2⟩)
    (fun {_ c h _ _ _} kept move row given => ?_) (fun _ row given => by cases given)
    (call.extra + 1) 0 ⟨stands, rfl⟩ row outcome
  · obtain ⟨record, received, made⟩ := read
    refine ⟨record, ?_, made⟩
    rw [recordCall]
    exact (congrArg (·[r.cursor.position]?) (History.records_returned _ _)).trans received
  · obtain ⟨⟨u, -⟩ | ⟨terminal, -⟩, position⟩ := kept
    · subst given
      cases move with
      | @row record rest _ ready front read =>
          have dropped : h.records.drop c.position = record :: rest := by rw [← u.buffer_eq, front]
          refine ⟨record, ?_, ?_⟩
          · rw [List.append_nil, ← position, ← List.head?_drop, dropped]
            rfl
          · rw [u.query_eq] at read
            exact q.materialize_of_deliver read
    · obtain ⟨-, same, -⟩ := move.of_terminal terminal
      rw [given] at same
      cases same

/-- Streams, lists and advances by hand agree, over any store and with any conversion, from any cursor
on and however many advances are made. The outcomes of the advances are items, and behind them an
error or the end, which repeats; a stream gives the items and the error, if there is one, and ends
there, and collecting gives the items, or that error; what they leave behind is the same, the store
with it.

A row that the conversion refuses fails the enumeration at the query's table and at the record's
position, whatever the error said before, and is counted as a failure. The rest of the page is
dropped, and whoever goes on, with any conversion, is told of the end and changes nothing. That
position is the place of the record among all that the enumeration has received. -/
theorem consumers_agree (x : Executor σ) (convert : Row → Except ConversionError α) :
    (∀ (signals : Nat → Signals) (steps count made : Nat) (r : Running σ),
      ∃ items rest tail result after,
        (x.advances convert signals steps count made r).1 = items.map .item ++ rest ∧
        Advance.Behind items rest tail result ∧
        x.streamWithin convert signals steps count made r = (items.map .ok ++ tail, after) ∧
        x.collectWithin convert signals steps count made r = (result, after) ∧
        ((∀ outcome ∈ rest, outcome.returns = true) →
          (x.advances convert signals steps count made r).2 = after)) ∧
    (∀ (signals : Signals) (steps : Nat) (r next : Running σ) (row : Row) (e : ConversionError),
      x.nextWithin signals steps r = (.item row, next) → convert row = .error e →
      next.cursor.position = r.cursor.position + 1 ∧
      ∃ after : Running σ,
        x.nextAsWithin convert signals steps r =
          (.failed (.materializationFailed
            { e with table := some r.cursor.query.table, position := some r.cursor.position }),
            after) ∧
        after.cursor = { next.cursor with state := .failed, buffer := [] } ∧
        after.world.store = next.world.store ∧
        after.world.diagnostics.metrics = { next.world.diagnostics.metrics with
          enumerationsFailed := next.world.diagnostics.metrics.enumerationsFailed + 1 } ∧
        ∀ {β : Type} (other : Row → Except ConversionError β) (signals : Nat → Signals)
          (steps count made : Nat),
          x.advances other signals (steps + 1) count made after =
            (List.replicate count .ended, after)) ∧
    ∀ (q : CompiledQuery) (settings : CursorSettings) (resume : Option String) (w : World σ)
      (calls : List Call) (call : Call) (row : Row) (next : Running σ),
      let r := x.record calls (Running.observed ⟨.startAt q settings resume, w⟩)
      x.nextWithin call.signals (call.extra + 1) r.forget = (.item row, next) →
      ∃ record, (x.recordCall r call).history.records[r.cursor.position]? = some record ∧
        q.materializer.materialize record = .ok row := by
  refine ⟨x.exists_items convert, ?_, ?_⟩
  · intro signals steps r next row e given refused
    have leaves := x.nextWithin_leaves signals steps r
    rw [given] at leaves
    obtain ⟨d, counted, failed⟩ := x.nextAsWithin_refused given refused
    exact ⟨leaves.2, _, failed, rfl, rfl, counted, fun other signals steps count made =>
      x.advances_over other signals steps count made rfl⟩
  · intro q settings resume w calls call row next
    exact x.exists_record q settings resume w calls call

end Executor

/-- One page of three records. -/
def threeLetters : ScriptedStore where
  answers := [.ok (.last (["a", "b", "c"].map fun letter => .ofList [("id", .string letter)]))]
  latency := 0
  log := []

/-- The row of a letter. -/
def letterRow (letter : String) : Row := ⟨"Person", [("Id", .string letter)]⟩

/-- An error that names a place it has not come from. -/
def misplaced : ConversionError := ⟨.missing, .string, none, some "pets", some 9⟩

/-- Of three letters the second is refused, by an error that names another place: it is reported for
position 1 of the table read, and the third letter is dropped with the page. -/
theorem consumers_agree_secondLetter :
    let x : Executor ScriptedStore := ⟨ScriptedStore.client, .once⟩
    let convert (row : Row) : Except ConversionError Row :=
      if row = letterRow "b" then .error misplaced else .ok row
    let start : Running ScriptedStore :=
      ⟨.startAt oneColumn .standard none, ⟨threeLetters, .start .silent⟩⟩
    let r := (x.nextWithin .never 3 start).2
    x.nextWithin .never 3 r = (.item (letterRow "b"), (x.nextWithin .never 3 r).2) ∧
      convert (letterRow "b") = .error misplaced ∧ r.cursor.buffer.length = 2 ∧
      ∃ after, x.nextAsWithin convert .never 3 r =
          (.failed (.materializationFailed
            { misplaced with table := some "people", position := some 1 }), after) ∧
        after.cursor.state = .failed ∧ after.cursor.buffer = [] := by
  intro x convert start r
  have given : x.nextWithin .never 3 r = (.item (letterRow "b"), (x.nextWithin .never 3 r).2) := by
    rfl
  have refused : convert (letterRow "b") = .error misplaced := if_pos rfl
  obtain ⟨after, failed, left, -⟩ :=
    ((x.consumers_agree convert).2.1 .never 3 r _ _ _ given refused).2
  exact ⟨given, refused, rfl, after, failed, by rw [left], by rw [left]⟩

end Keyscan
