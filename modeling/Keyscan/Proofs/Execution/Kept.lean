import Keyscan.Proofs.Execution.Underway

/-!
What a cursor keeps. Whatever has passed, its token and its number of pages are those of the pages
accepted, and unless it has failed its position is the number of rows returned. Every move keeps this,
so it holds between the calls of every run, and behind a cancellation too.
-/

set_option autoImplicit false

namespace Keyscan

variable {σ : Type}

/-! ### Rows -/

/-- The row that is returned. -/
def Advance.row? : Advance Row → Option Row
  | .item row => some row
  | _ => none

namespace History

/-- The rows that the calls have returned. -/
def rows (h : History) : List Row := h.outcomes.filterMap Advance.row?

@[simp] theorem rows_append (g h : History) : (g ++ h).rows = g.rows ++ h.rows := by
  simp [rows]

@[simp] theorem rows_returned (h : History) (outcome : Advance Row) :
    (h ++ [Happening.returned outcome]).rows = h.rows ++ outcome.row?.toList := by
  rw [rows_append]
  cases outcome <;> rfl

/-- The rows are the items that are no errors. -/
theorem rows_eq (h : History) : h.rows = h.items.filterMap Except.toOption := by
  rw [rows, outcomes, items, List.filterMap_filterMap, List.filterMap_filterMap]
  congr 1
  funext happening
  cases happening with
  | sent request => rfl
  | answered answer => rfl
  | returned outcome => cases outcome <;> rfl

/-- Histories with the same outcomes are over at the same time. -/
theorem isOver_congr {g h : History} (outcomes : g.outcomes = h.outcomes) :
    g.isOver = h.isOver := by
  have told (h : History) :
      h.isOver = h.outcomes.any fun outcome => (Happening.returned outcome).isLast := by
    induction h with
    | nil => rfl
    | cons happening h ih =>
        cases happening with
        | sent request => exact ih
        | answered answer => exact ih
        | returned outcome => exact congrArg (Happening.isLast (.returned outcome) || ·) ih
  rw [told g, told h, outcomes]

/-- Histories with the same pages have the same token. -/
theorem token_congr {g h : History} (resume : Option String) (pages : g.pages = h.pages) :
    g.token resume = h.token resume := by
  rw [token, token, pages]

end History

/-! ### What is kept -/

/-- What a cursor keeps is that of the pages accepted and the rows returned, up to its end and behind a
cancellation. -/
structure Cursor.Kept (resume : Option String) (c : Cursor) (h : History) : Prop where
  token_eq : c.nextToken = h.token resume
  pages_eq : c.pages = h.pages.length
  position_eq : c.state ≠ .failed → c.position = h.rows.length
  over_eq : c.state.isTerminal = h.isOver

namespace Cursor.Kept

variable {s : Strategy} {signals : Signals} {resume : Option String} {c c' : Cursor}
  {h block : History}

/-- A cursor under way has not failed. -/
theorem position_alive (kept : c.Kept resume h) (alive : c.state.isTerminal = false) :
    c.position = h.rows.length :=
  kept.position_eq fun failed => by rw [failed] at alive; cases alive

/-- Without a page or a row in addition everything is kept but the state. -/
theorem same (kept : c.Kept resume h) {g : History} (pages : g.pages = h.pages)
    (rows : g.rows = h.rows) (token : c'.nextToken = c.nextToken) (count : c'.pages = c.pages)
    (position : c'.state ≠ .failed → c.state ≠ .failed ∧ c'.position = c.position)
    (terminal : c'.state.isTerminal = g.isOver) : c'.Kept resume g where
  token_eq := by rw [token, kept.token_eq, History.token_congr resume pages]
  pages_eq := by rw [count, kept.pages_eq, pages]
  position_eq going := by
    obtain ⟨before, position⟩ := position going
    rw [position, kept.position_eq before, rows]
  over_eq := terminal

/-- The moves that do not return keep it. -/
theorem onward (kept : c.Kept resume h) (move : c.Moves s signals block none c') :
    c'.Kept resume (h ++ block) := by
  have silent : block.rows = [] := by rw [History.rows, move.outcomes_eq]; rfl
  have going : (h ++ block).isOver = h.isOver :=
    History.isOver_congr (by rw [History.outcomes_append, move.outcomes_eq, List.append_nil])
  cases move with
  | @accept alive awaiting page time _ trip =>
      have pages : (h ++ block).pages = h.pages ++ [page] := by
        rw [History.pages_append, trip.pages_eq]
        rfl
      exact {
        token_eq := by rw [History.token, pages, List.getLast?_concat]
        pages_eq := by rw [pages, List.length_append, kept.pages_eq]; rfl
        position_eq := fun _ => by
          rw [History.rows_append, silent, List.append_nil]
          exact kept.position_alive alive
        over_eq := by rw [going, ← kept.over_eq, alive]; rfl }
  | turn ready empty more =>
      rw [List.append_nil] at going ⊢
      refine kept.same rfl rfl rfl rfl (fun _ => ⟨fun failed => ?_, rfl⟩) ?_
      · rw [failed] at ready
        cases ready
      · rw [← kept.over_eq, ready]
        rfl

/-- The moves that return keep it too. -/
theorem returns (kept : c.Kept resume h) {o : Advance Row}
    (move : c.Moves s signals block (some o) c') :
    c'.Kept resume (h ++ block ++ [.returned o]) := by
  have silent : block.rows = [] := by rw [History.rows, move.outcomes_eq]; rfl
  have going : (h ++ block).isOver = h.isOver :=
    History.isOver_congr (by rw [History.outcomes_append, move.outcomes_eq, List.append_nil])
  have rows : (h ++ block ++ [Happening.returned o]).rows = h.rows ++ o.row?.toList := by
    rw [History.rows_returned, History.rows_append, silent, List.append_nil]
  have pages (received : block.pages = []) :
      (h ++ block ++ [Happening.returned o]).pages = h.pages := by
    rw [History.pages_returned, History.pages_append, received, List.append_nil]
  have ended : (h ++ block ++ [Happening.returned o]).isOver =
      (c.state.isTerminal || (Happening.returned o).isLast) := by
    rw [History.isOver_returned, going, kept.over_eq]
  have alive_of {state : CursorState} (alive : state.isTerminal = false) : state ≠ .failed := by
    rintro rfl
    cases alive
  have no_row (none : o.row? = none) : (h ++ block ++ [Happening.returned o]).rows = h.rows := by
    rw [rows, none]
    exact List.append_nil _
  cases move with
  | ended terminal =>
      exact kept.same (pages rfl) (no_row rfl) rfl rfl (fun going => ⟨going, rfl⟩)
        (by rw [ended, terminal]; rfl)
  | cancel alive comes =>
      exact kept.same (pages rfl) (no_row rfl) rfl rfl (fun _ => ⟨alive_of alive, rfl⟩)
        (by rw [ended, alive]; rfl)
  | failFetch alive awaiting trip =>
      exact kept.same (pages trip.pages_eq) (no_row rfl) rfl rfl (fun going => absurd rfl going)
        (by rw [ended, alive]; rfl)
  | cancelFetch alive awaiting comes trip =>
      exact kept.same (pages trip.pages_eq) (no_row rfl) rfl rfl (fun _ => ⟨alive_of alive, rfl⟩)
        (by rw [ended, alive]; rfl)
  | dropFetch alive awaiting comes trip =>
      exact kept.same (pages trip.pages_eq) (no_row rfl) rfl rfl (fun _ => ⟨alive_of alive, rfl⟩)
        (by rw [ended, alive]; rfl)
  | row ready front read =>
      exact {
        token_eq := by rw [History.token_congr resume (pages rfl)]; exact kept.token_eq
        pages_eq := by rw [pages rfl]; exact kept.pages_eq
        position_eq := fun going => by
          rw [rows, List.length_append, ← kept.position_eq going]
          rfl
        over_eq := by rw [ended]; exact (Bool.or_false _).symm }
  | failRecord ready front read =>
      exact {
        token_eq := by rw [History.token_congr resume (pages rfl)]; exact kept.token_eq
        pages_eq := by rw [pages rfl]; exact kept.pages_eq
        position_eq := fun going => absurd rfl going
        over_eq := by rw [ended, ready]; rfl }
  | finish ready empty last =>
      have alive : c.state.isTerminal = false := by
        rw [ready]
        rfl
      exact kept.same (pages rfl) (no_row rfl) rfl rfl (fun _ => ⟨alive_of alive, rfl⟩)
        (by rw [ended, alive]; rfl)

end Cursor.Kept

/-- What a cursor keeps between the calls of a run. -/
theorem Executor.record_kept (x : Executor σ) (q : CompiledQuery) (settings : CursorSettings)
    (resume : Option String) (w : World σ) (calls : List Call) :
    let r := x.record calls (Running.observed ⟨.startAt q settings resume, w⟩)
    r.cursor.Kept resume r.history :=
  x.record_induction calls (I := fun c h => c.Kept resume h)
    (fun _ kept move => kept.onward move) (fun _ kept move => kept.returns move)
    (fun kept => kept.same (History.pages_returned _ _)
      ((History.rows_returned _ _).trans (List.append_nil _)) rfl rfl (fun going => ⟨going, rfl⟩)
      (by rw [History.isOver_returned, kept.over_eq]; exact (Bool.or_false _).symm))
    (r := Running.observed ⟨.startAt q settings resume, w⟩)
    ⟨rfl, rfl, fun _ => rfl, rfl⟩

end Keyscan
