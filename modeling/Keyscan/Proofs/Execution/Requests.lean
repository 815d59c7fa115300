import Keyscan.Proofs.Execution.Delivery
import Keyscan.Store.Script

/-!
The request protocol over any store. Every request asks for the query's statement with the settings'
page size, and carries the token of the last page accepted, whatever that token is; it is sent only
when everything received before has been handed out, and only when there is a page to ask for.

`History.Due` says when a request is due after what has passed, and `History.Lawful` that every
request of a history was due when it was sent.
-/

set_option autoImplicit false

namespace Keyscan

variable {σ : Type}

namespace History

variable {q : CompiledQuery} {settings : CursorSettings} {resume : Option String}
  {request : StatementRequest} {h : History}

/-- When a request is sent rightly after what has passed. -/
structure Due (q : CompiledQuery) (settings : CursorSettings) (resume : Option String)
    (before : History) (request : StatementRequest) : Prop where
  /-- Only the token varies, and it is that of the last page. -/
  request_eq : request = ⟨q.statement, before.token resume, settings.pageSize⟩
  /-- The caller has been given what became of every record received. -/
  handed_out : before.items = before.records.mapIdx q.deliver
  continues : before.Continues settings
  going : before.isOver = false

/-- Every request was due when it was sent. -/
def Lawful (q : CompiledQuery) (settings : CursorSettings) (resume : Option String) (h : History) :
    Prop :=
  ∀ (before : History) (request : StatementRequest) (after : History),
    h = before ++ .sent request :: after → before.Due q settings resume request

theorem lawful_nil : Lawful q settings resume [] := by
  intro before request after parts
  exact absurd parts.symm (by simp)

/-- A history stays lawful when a due request is added, or something that is no request. -/
theorem Lawful.concat (lawful : h.Lawful q settings resume) {happening : Happening}
    (due : ∀ request, happening = .sent request → h.Due q settings resume request) :
    (h ++ [happening]).Lawful q settings resume := by
  intro before request after parts
  obtain ⟨rfl, same⟩ | ⟨rest, earlier⟩ := parts_of_concat parts
  · exact due request same
  · exact lawful before request rest earlier

theorem Lawful.answered (lawful : h.Lawful q settings resume) (answer : Except StoreError Page) :
    (h ++ [Happening.answered answer]).Lawful q settings resume :=
  lawful.concat fun _ impossible => by cases impossible

theorem Lawful.returned (lawful : h.Lawful q settings resume) (outcome : Advance Row) :
    (h ++ [Happening.returned outcome]).Lawful q settings resume :=
  lawful.concat fun _ impossible => by cases impossible

theorem Lawful.sent (lawful : h.Lawful q settings resume) (due : h.Due q settings resume request) :
    (h ++ [Happening.sent request]).Lawful q settings resume := by
  refine lawful.concat fun other same => ?_
  cases same
  exact due

/-- A request that has failed is due again. -/
theorem Due.again (due : h.Due q settings resume request) (e : StoreError) :
    (h ++ [Happening.sent request, .answered (.error e)]).Due q settings resume request := by
  have pages : (h ++ [Happening.sent request, .answered (.error e)]).pages = h.pages := by
    rw [pages_append]
    exact List.append_nil _
  have items : (h ++ [Happening.sent request, .answered (.error e)]).items = h.items := by
    rw [items_append]
    exact List.append_nil _
  exact {
    request_eq := by rw [token, pages]; exact due.request_eq
    handed_out := by rw [items, records, pages]; exact due.handed_out
    continues := by rw [Continues, pages]; exact due.continues
    going := by rw [isOver_append, due.going]; rfl }

/-- A round trip of a due request is lawful throughout. -/
theorem Lawful.trip (lawful : h.Lawful q settings resume) (due : h.Due q settings resume request)
    {s : Strategy} {signals : Signals} {outcome : TripOutcome} {block : History}
    (trip : RoundTrip s signals request outcome block) :
    (h ++ block).Lawful q settings resume := by
  induction trip generalizing h with
  | accepted page time =>
      have sent := (lawful.sent due).answered (.ok page)
      rwa [List.append_assoc] at sent
  | failed e attempts time =>
      have sent := (lawful.sent due).answered (.error e)
      rwa [List.append_assoc] at sent
  | unanswered start wait comes => exact lawful.sent due
  | paused e start wait comes =>
      have sent := (lawful.sent due).answered (.error e)
      rwa [List.append_assoc] at sent
  | again e trip ih =>
      have sent := (lawful.sent due).answered (.error e)
      rw [List.append_assoc] at sent
      have more := ih sent (due.again e)
      rwa [List.append_assoc] at more

end History

namespace Cursor

variable {s : Strategy} {signals : Signals} {q : CompiledQuery} {settings : CursorSettings}
  {resume : Option String} {c next : Cursor} {h block : History} {outcome : Option (Advance Row)}

/-- The request of a cursor that awaits a page is due. -/
theorem Underway.due (u : c.Underway q settings resume h) (awaiting : c.state ≠ .materializing) :
    h.Due q settings resume c.request where
  request_eq := by rw [request, u.query_eq, u.token_eq, u.settings_eq]
  handed_out := u.items_all (u.awaiting awaiting).1
  continues := (u.awaiting awaiting).2
  going := u.going

/-- Every move of an enumeration under way is lawful. -/
theorem Underway.lawful (u : c.Underway q settings resume h) (lawful : h.Lawful q settings resume)
    (move : c.Moves s signals block outcome next) : (h ++ block).Lawful q settings resume := by
  cases move with
  | accept alive awaiting trip => exact lawful.trip (u.due awaiting) trip
  | failFetch alive awaiting trip => exact lawful.trip (u.due awaiting) trip
  | cancelFetch alive awaiting comes trip => exact lawful.trip (u.due awaiting) trip
  | dropFetch alive awaiting comes trip => exact lawful.trip (u.due awaiting) trip
  | _ => rwa [List.append_nil]

/-- A cursor at the beginning of its query or, when a resume token is given, where that was issued. -/
def opened (q : CompiledQuery) (settings : CursorSettings) :
    Option ResumeToken → Except ExecutionError Cursor
  | none => .ok (start q settings)
  | some t => (start q settings).resumeFrom t

/-- A cursor that is opened differs from a new one in its token only. -/
theorem opened_eq {resume : Option ResumeToken} (ok : opened q settings resume = .ok c) :
    c = startAt q settings (resume.map ResumeToken.token) := by
  cases resume with
  | none =>
      cases ok
      rfl
  | some t =>
      simp only [opened, resumeFrom] at ok
      split at ok
      · cases ok
        rfl
      · cases ok

end Cursor

/-! ### Any number of calls -/

/-- Every request of a recorded run is due when it is sent. -/
theorem Executor.record_lawful (x : Executor σ) (q : CompiledQuery) (settings : CursorSettings)
    (resume : Option String) (w : World σ) (calls : List Call) :
    (x.record calls (Running.observed ⟨.startAt q settings resume, w⟩)).history.Lawful q settings
      resume :=
  x.record_underway_induction (I := fun _ h => h.Lawful q settings resume) w calls
    History.lawful_nil (fun u lawful move => u.lawful lawful move)
    (fun u lawful move => (u.lawful lawful move).returned _) (fun lawful => lawful.returned _)
    (fun lawful => lawful.returned _)

/-- The request protocol: over any store, with any strategy and for calls with any signals, every
request that an enumeration sends is due when it is sent, repetitions included. The recorded run is
the run itself. -/
theorem Executor.calls_lawful (x : Executor σ) {q : CompiledQuery} {settings : CursorSettings}
    {resume : Option ResumeToken} {c : Cursor} (opened : Cursor.opened q settings resume = .ok c)
    (w : World σ) (calls : List Call) :
    let r := x.record calls (Running.observed ⟨c, w⟩)
    x.calls calls ⟨c, w⟩ = (r.history.outcomes, r.forget) ∧
      r.history.Lawful q settings (resume.map ResumeToken.token) := by
  obtain rfl := Cursor.opened_eq opened
  intro r
  exact ⟨x.calls_eq_record calls _,
    x.record_lawful q settings (resume.map ResumeToken.token) w calls⟩

/-- A query of one column. -/
def oneColumn : CompiledQuery where
  model := ⟨"Person", "people", [⟨"Id", "id", .string, false⟩], by decide, by decide, by decide⟩
  statement := "SELECT \"id\" FROM \"people\""
  fingerprint := "people by id"
  plan := .record
  materializer := ⟨"Person", [⟨"Id", "id", .string, false⟩]⟩

/-- A failure, a page with an empty token, a page without records, and the last page. -/
def unevenPages : ScriptedStore where
  answers :=
    [ .error (.transient "busy"), .ok ⟨[.ofList [("id", .string "a")]], some ""⟩,
      .ok ⟨[], some "next"⟩, .ok (.last [.ofList [("id", .string "b")]]) ]
  latency := 0
  log := []

/-- A resumed enumeration over uneven pages: the request that fails is repeated with the resume token,
and every other one carries the token of the page before. -/
theorem calls_lawful_unevenPages :
    let x : Executor ScriptedStore := ⟨ScriptedStore.client, (Backoff.of 1 0 0).strategy⟩
    let settings : CursorSettings := ⟨some 2, true⟩
    let c : Cursor := .startAt oneColumn settings (some "mark")
    let w : World ScriptedStore := ⟨unevenPages, .start .silent⟩
    let calls : List Call := List.replicate 4 ⟨.never, 5⟩
    Cursor.opened oneColumn settings (some ⟨"people by id", "mark"⟩) = .ok c ∧
      (x.calls calls ⟨c, w⟩).2.world.store.log =
        [ ⟨oneColumn.statement, some "mark", some 2⟩, ⟨oneColumn.statement, some "mark", some 2⟩,
          ⟨oneColumn.statement, some "", some 2⟩, ⟨oneColumn.statement, some "next", some 2⟩ ] ∧
      (x.record calls (Running.observed ⟨c, w⟩)).history.Lawful oneColumn settings (some "mark") := by
  intro x settings c w calls
  have opened : Cursor.opened oneColumn settings (some ⟨"people by id", "mark"⟩) = .ok c := by rfl
  exact ⟨opened, by decide +kernel, (x.calls_lawful opened w calls).2⟩

end Keyscan
