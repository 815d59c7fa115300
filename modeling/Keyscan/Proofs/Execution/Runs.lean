import Keyscan.Proofs.Execution.Moves

/-!
Runs of calls. `advanceFrom_induction` carries what is shown of the moves to one call, and
`record_induction` from there to any number of calls, which is how the theorems about histories are
proved. A run that is over stays as it is, and its history does not matter to what it does.
-/

set_option autoImplicit false

namespace Keyscan

variable {σ : Type}

/-- Behind the end a move returns the end, and nothing else happens. -/
theorem Cursor.Moves.of_terminal {s : Strategy} {signals : Signals} {c next : Cursor}
    {block : History} {outcome : Option (Advance Row)}
    (move : c.Moves s signals block outcome next) (terminal : c.state.isTerminal = true) :
    block = [] ∧ outcome = some .ended ∧ next = c := by
  cases move with
  | ended _ => exact ⟨rfl, rfl, rfl⟩
  | cancel alive comes => rw [terminal] at alive; cases alive
  | accept alive awaiting trip => rw [terminal] at alive; cases alive
  | failFetch alive awaiting trip => rw [terminal] at alive; cases alive
  | cancelFetch alive awaiting comes trip => rw [terminal] at alive; cases alive
  | dropFetch alive awaiting comes trip => rw [terminal] at alive; cases alive
  | row ready front read => rw [ready] at terminal; cases terminal
  | failRecord ready front read => rw [ready] at terminal; cases terminal
  | turn ready empty more => rw [ready] at terminal; cases terminal
  | finish ready empty last => rw [ready] at terminal; cases terminal

/-- Nothing is returned during a move. -/
theorem Cursor.Moves.outcomes_eq {s : Strategy} {signals : Signals} {c next : Cursor}
    {block : History} {outcome : Option (Advance Row)}
    (move : c.Moves s signals block outcome next) : block.outcomes = [] := by
  cases move with
  | accept alive awaiting trip => exact trip.outcomes_eq
  | failFetch alive awaiting trip => exact trip.outcomes_eq
  | cancelFetch alive awaiting comes trip => exact trip.outcomes_eq
  | dropFetch alive awaiting comes trip => exact trip.outcomes_eq
  | _ => rfl

namespace Executor

theorem record_cons (x : Executor σ) (call : Call) (more : List Call)
    (r : Running (Recorded σ)) :
    x.record (call :: more) r = x.record more (x.recordCall r call) :=
  rfl

/-! ### Induction -/

/-- What holds of a cursor and its history through a call: it is kept by the moves that do not return,
and turned into what is to be shown by the others, or when the steps are used up. -/
theorem advanceFrom_induction (x : Executor σ) (signals : Signals)
    {P : Nat → Cursor → History → Prop} {Q : Advance Row → Cursor → History → Prop}
    (onward : ∀ {n c h block c'}, P (n + 1) c h →
      c.Moves x.strategy signals block none c' → P n c' (h ++ block))
    (returns : ∀ {n c h block o c'}, P (n + 1) c h →
      c.Moves x.strategy signals block (some o) c' → Q o c' (h ++ block))
    (cut : ∀ {c h}, P 0 c h → Q .unfinished c h)
    (steps time : Nat) {r : Running (Recorded σ)} (start : P steps r.cursor r.history) :
    Q (x.recorded.advanceFrom signals steps time r).1
      (x.recorded.advanceFrom signals steps time r).2.cursor
      (x.recorded.advanceFrom signals steps time r).2.history := by
  induction steps generalizing time r with
  | zero => exact cut start
  | succ steps ih =>
      obtain ⟨block, outcome, later, next, result, added, move⟩ :=
        x.advanceFrom_moves signals steps time r
      rw [result]
      cases outcome with
      | some o =>
          have shown := returns start move
          rwa [← added] at shown
      | none =>
          have kept := onward start move
          rw [← added] at kept
          exact ih later kept

/-- What holds of a cursor and its history between the calls of a run, when the moves keep it. -/
theorem record_induction (x : Executor σ) {I : Cursor → History → Prop} (calls : List Call)
    (onward : ∀ {call c h block c'}, call ∈ calls → I c h →
      c.Moves x.strategy call.signals block none c' → I c' (h ++ block))
    (returns : ∀ {call c h block o c'}, call ∈ calls → I c h →
      c.Moves x.strategy call.signals block (some o) c' → I c' (h ++ block ++ [.returned o]))
    (cut : ∀ {c h}, I c h → I c (h ++ [.returned .unfinished]))
    {r : Running (Recorded σ)} (start : I r.cursor r.history) :
    I (x.record calls r).cursor (x.record calls r).history := by
  induction calls generalizing r with
  | nil => exact start
  | cons call more ih =>
      have here : call ∈ call :: more := List.mem_cons_self
      have returned := x.advanceFrom_induction call.signals
        (P := fun _ c h => I c h) (Q := fun o c h => I c (h ++ [.returned o]))
        (fun kept move => onward here kept move) (fun kept move => returns here kept move) cut
        (call.extra + 1) 0 start
      exact ih (fun mem => onward (List.mem_cons_of_mem _ mem))
        (fun mem => returns (List.mem_cons_of_mem _ mem)) (r := x.recordCall r call) returned

/-! ### Histories grow -/

/-- A recorded advance adds to the history. -/
theorem advanceFrom_extends (x : Executor σ) (signals : Signals) (steps time : Nat)
    (r : Running (Recorded σ)) :
    ∃ more, (x.recorded.advanceFrom signals steps time r).2.history = r.history ++ more := by
  have added : ∀ {s : Strategy} {c next : Cursor} {h block : History} {o : Option (Advance Row)},
      (∃ more, h = r.history ++ more) → c.Moves s signals block o next →
        ∃ more, h ++ block = r.history ++ more := by
    rintro s c next h block o ⟨more, rfl⟩ -
    exact ⟨more ++ block, List.append_assoc _ _ _⟩
  exact x.advanceFrom_induction signals
    (P := fun _ _ h => ∃ more, h = r.history ++ more)
    (Q := fun _ _ h => ∃ more, h = r.history ++ more) added added id steps time
    ⟨[], (List.append_nil _).symm⟩

/-- So do calls. -/
theorem record_extends (x : Executor σ) (calls : List Call) (r : Running (Recorded σ)) :
    ∃ more, (x.record calls r).history = r.history ++ more := by
  induction calls generalizing r with
  | nil => exact ⟨[], (List.append_nil _).symm⟩
  | cons call calls ih =>
      obtain ⟨more, added⟩ := x.advanceFrom_extends call.signals (call.extra + 1) 0 r
      obtain ⟨others, rest⟩ := ih (x.recordCall r call)
      have called : (x.recordCall r call).history = _ := congrArg (· ++ [_]) added
      exact ⟨_, by rw [record_cons, rest, called, List.append_assoc, List.append_assoc]⟩

/-- An enumeration stays one of its query. -/
theorem record_query (x : Executor σ) (calls : List Call) (r : Running (Recorded σ)) :
    (x.record calls r).cursor.query = r.cursor.query := by
  have kept : ∀ {s : Strategy} {signals : Signals} {c next : Cursor} {block : History}
      {o : Option (Advance Row)}, c.query = r.cursor.query → c.Moves s signals block o next →
        next.query = r.cursor.query := by
    intro s signals c next block o same move
    cases move <;> exact same
  exact x.record_induction calls (I := fun c _ => c.query = r.cursor.query) (fun _ => kept)
    (fun _ => kept) id rfl

/-! ### Histories do not matter -/

/-- What an advance adds to the history has no outcomes. -/
theorem outcomes_advanceFrom (x : Executor σ) (signals : Signals) (steps time : Nat)
    (r : Running (Recorded σ)) :
    (x.recorded.advanceFrom signals steps time r).2.history.outcomes = r.history.outcomes := by
  have same : ∀ {s : Strategy} {c next : Cursor} {h block : History} {o : Option (Advance Row)},
      h.outcomes = r.history.outcomes → c.Moves s signals block o next →
        (h ++ block).outcomes = r.history.outcomes := by
    intro s c next h block o kept move
    rw [History.outcomes_append, move.outcomes_eq, List.append_nil, kept]
  exact x.advanceFrom_induction signals
    (P := fun _ _ h => h.outcomes = r.history.outcomes)
    (Q := fun _ _ h => h.outcomes = r.history.outcomes) same same id steps time rfl

/-- A call over the recorded store is the call, and its outcome is noted. -/
theorem recordCall_forget (x : Executor σ) (r : Running (Recorded σ)) (call : Call) :
    ∃ outcome,
      x.nextWithin call.signals (call.extra + 1) r.forget =
        (outcome, (x.recordCall r call).forget) ∧
      (x.recordCall r call).history.outcomes = r.history.outcomes ++ [outcome] := by
  have advance := x.advanceFrom_forget call.signals (call.extra + 1) 0 r
  have outcomes := x.outcomes_advanceFrom call.signals (call.extra + 1) 0 r
  refine ⟨(x.recorded.advanceFrom call.signals (call.extra + 1) 0 r).1, advance, ?_⟩
  rw [← outcomes]
  exact History.outcomes_append _ _

/-- A recorded run without its history is the run, and the history holds its outcomes. -/
theorem record_forget (x : Executor σ) (calls : List Call) (r : Running (Recorded σ)) :
    ∃ outcomes, x.calls calls r.forget = (outcomes, (x.record calls r).forget) ∧
      (x.record calls r).history.outcomes = r.history.outcomes ++ outcomes := by
  induction calls generalizing r with
  | nil => exact ⟨[], rfl, (List.append_nil _).symm⟩
  | cons call more ih =>
      obtain ⟨outcome, called, noted⟩ := x.recordCall_forget r call
      obtain ⟨outcomes, rest, added⟩ := ih (x.recordCall r call)
      refine ⟨outcome :: outcomes, ?_, ?_⟩
      · rw [calls, called]
        simp only [rest]
        rfl
      · rw [record_cons, added, noted, List.append_assoc]
        rfl

/-- What is recorded from the beginning is the run. -/
theorem calls_eq_record (x : Executor σ) (calls : List Call) (r : Running σ) :
    x.calls calls r =
      ((x.record calls r.observed).history.outcomes, (x.record calls r.observed).forget) := by
  obtain ⟨outcomes, run, noted⟩ := x.record_forget calls r.observed
  rw [Running.forget_observed] at run
  rw [run, noted]
  rfl

/-! ### Runs that are over -/

/-- Calls behind the end return the end, and change nothing at all. -/
theorem calls_over (x : Executor σ) (calls : List Call) {r : Running σ}
    (terminal : r.cursor.state.isTerminal = true) :
    x.calls calls r = (calls.map fun _ => .ended, r) := by
  induction calls with
  | nil => rfl
  | cons call more ih =>
      rw [Executor.calls, nextWithin, x.advanceFrom_over call.extra call.signals 0 terminal]
      simp only [ih]
      rfl

/-- Calls behind the end send nothing, and nothing is answered. -/
theorem record_over (x : Executor σ) (calls : List Call) {r : Running (Recorded σ)}
    (terminal : r.cursor.state.isTerminal = true) :
    x.record calls r = r.noting (calls.map fun _ => .returned .ended) := by
  induction calls generalizing r with
  | nil => exact r.noting_nil.symm
  | cons call more ih =>
      have called : x.recordCall r call = r.noting [.returned .ended] := by
        rw [recordCall, nextWithin, x.recorded.advanceFrom_over call.extra call.signals 0 terminal]
      rw [record_cons, called, ih (r := r.noting [.returned .ended]) terminal, Running.noting_noting]
      rfl

end Executor

end Keyscan
