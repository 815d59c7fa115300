import Keyscan.Diagnostics.Journal

/-!
Counters and events. `Event.counted` is the counter that goes with an event; diagnostics agree when
every counter is what its events add up to. Whatever counts and notes one event at a time keeps that,
so it is enough to look at one note. Only the number of rows has no event.
-/

set_option autoImplicit false

namespace Keyscan

/-- What an event means for the counters. Two events are failures of an enumeration, and two are not
counted. -/
def Event.counted : Event → Metrics → Metrics
  | .queryTranslated, m => { m with queriesTranslated := m.queriesTranslated + 1 }
  | .queryRejected, m => { m with queriesRejected := m.queriesRejected + 1 }
  | .queryCompiled, m => { m with compilations := m.compilations + 1 }
  | .compiledQueryCacheHit, m => { m with cacheHits := m.cacheHits + 1 }
  | .roundTripCompleted, m => { m with roundTrips := m.roundTrips + 1 }
  | .storeRetry, m => { m with storeRetries := m.storeRetries + 1 }
  | .enumerationExhausted, m => { m with enumerationsCompleted := m.enumerationsCompleted + 1 }
  | .enumerationCancelled, m => { m with enumerationsCancelled := m.enumerationsCancelled + 1 }
  | .materializationFailed, m | .storeFailed, m =>
      { m with enumerationsFailed := m.enumerationsFailed + 1 }
  | .configLoaded, m | .queryExecuting, m => m

namespace Diagnostics

/-- How often an event was noticed. -/
def times (journal : List Notice) (event : Event) : Nat :=
  journal.countP fun n => n.event = event

theorem times_append (journal : List Notice) (n : Notice) (event : Event) :
    times (journal ++ [n]) event = times journal event + if n.event = event then 1 else 0 := by
  rw [times, List.countP_append, List.countP_singleton]
  simp only [decide_eq_true_eq]
  rfl

/-- The counters that a journal adds up to, beside a number of rows. -/
def tally (journal : List Notice) (rows : Nat) : Metrics where
  queriesTranslated := times journal .queryTranslated
  queriesRejected := times journal .queryRejected
  compilations := times journal .queryCompiled
  cacheHits := times journal .compiledQueryCacheHit
  roundTrips := times journal .roundTripCompleted
  storeRetries := times journal .storeRetry
  recordsMaterialized := rows
  enumerationsCompleted := times journal .enumerationExhausted
  enumerationsFailed := times journal .storeFailed + times journal .materializationFailed
  enumerationsCancelled := times journal .enumerationCancelled

/-- One more notice is one more in its counter. -/
theorem tally_append (journal : List Notice) (n : Notice) (rows : Nat) :
    tally (journal ++ [n]) rows = n.event.counted (tally journal rows) := by
  obtain ⟨event, fields⟩ := n
  simp only [tally, times_append]
  cases event with
  | storeFailed => simp [Event.counted, Nat.add_right_comm]
  | _ => simp [Event.counted, Nat.add_assoc]

/-- Diagnostics whose sink keeps notices, and whose counters are what the notices add up to. -/
structure Agrees (d : Diagnostics) : Prop where
  keeps : d.sink ≠ .silent
  tallies : d.metrics = tally d.journal d.metrics.recordsMaterialized

/-- New diagnostics agree. -/
theorem agrees_start {sink : Sink} (keeps : sink ≠ .silent) : (start sink).Agrees :=
  ⟨keeps, rfl⟩

variable {d : Diagnostics}

@[simp] theorem metrics_emit (d : Diagnostics) (event : Event) (fields : List (String × String)) :
    (d.emit event fields).metrics = d.metrics := by
  unfold emit
  split <;> rfl

@[simp] theorem metrics_count (d : Diagnostics) (change : Metrics → Metrics) :
    (d.count change).metrics = change d.metrics :=
  rfl

theorem journal_emit (keeps : d.sink ≠ .silent) (event : Event)
    (fields : List (String × String)) :
    d.emit event fields = { d with journal := d.journal ++ [⟨event, fields⟩] } := by
  rw [emit]
  cases sink : d.sink with
  | silent => exact absurd sink keeps
  | recording | logging least errorOutputOnly => rfl

/-- The number of rows does not take part in what an event means. -/
theorem counted_rows (event : Event) (m : Metrics) :
    (event.counted m).recordsMaterialized = m.recordsMaterialized := by
  cases event <;> rfl

/-- Counting an event and noting it keeps counters and notices in agreement. -/
theorem Agrees.note (agrees : d.Agrees) (event : Event) (fields : List (String × String)) :
    ((d.count event.counted).emit event fields).Agrees := by
  rw [journal_emit (d := d.count event.counted) agrees.keeps]
  refine ⟨agrees.keeps, ?_⟩
  change event.counted d.metrics = tally (d.journal ++ [⟨event, fields⟩]) _
  rw [tally_append]
  change _ = event.counted (tally d.journal (event.counted d.metrics).recordsMaterialized)
  rw [counted_rows, ← agrees.tallies]

/-- So does counting a row. -/
theorem Agrees.row (agrees : d.Agrees) :
    (d.count fun m => { m with recordsMaterialized := m.recordsMaterialized + 1 }).Agrees := by
  refine ⟨agrees.keeps, ?_⟩
  exact congrArg
    (fun m : Metrics => { m with recordsMaterialized := d.metrics.recordsMaterialized + 1 })
    agrees.tallies

end Diagnostics

end Keyscan
