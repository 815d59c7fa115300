import Keyscan.Proofs.Compiled.Meaning
import Keyscan.Proofs.Execution.MappedScan
import Keyscan.Proofs.Execution.Received
import Keyscan.Proofs.Execution.ResumeToken
import Keyscan.Proofs.Execution.RowDrain
import Keyscan.Proofs.Execution.Stops

/-!
Resuming loses and repeats nothing. An enumeration of a mapped table that stops behind a page leaves a
token, and an enumeration that is resumed from the text of the token brings the rows that are missing,
whatever disturbed the first one and whatever page sizes the two ask for: `resume_complete`.

The rows returned so far and the token left are what the pages received say (`RowTable.Received`), and
what draining brings is what the token says (`RowTable.drain_rowsFrom`), so the two fit together. A
chain of first pages is an induction over their page sizes.
-/

set_option autoImplicit false

namespace Keyscan

/-! ### Resumed enumerations -/

/-- What an enumeration of a table brings from a resume token on, or from the beginning. Whatever store
in memory holds the table, without a failure queued, and whatever the page size, the enumeration is
accepted, and draining it brings these rows and nothing else. From a token that the store refuses there
are no rows, and its failure comes instead. -/
def CompiledQuery.Brings (q : CompiledQuery) (records : List Record) (resume : Option ResumeToken)
    (rows : List Row) : Prop :=
  ∀ (strategy : Strategy) (pageSize : Option Nat) (s : MemoryStore) (d : Diagnostics),
    s.tables.get? q.table = some records → s.failures = [] →
      ∃ c, Cursor.opened q ⟨pageSize, true⟩ resume = .ok c ∧
        let items := ((⟨MemoryStore.client, strategy⟩ : Executor MemoryStore).drain .ok .never
          ⟨c, s, d⟩).1
        items = rows.map .ok ∨
          rows = [] ∧ ∃ e, items = [.error (.storeFailed q.table e)]

/-- The items of first pages, one enumeration after the other without pagination, each with a page size
of its own. Every one is resumed from the text of the token that the one before has left. The token that
is left in the end comes with them, and nothing does if a token is not accepted. -/
def Executor.firstPages {σ : Type} (x : Executor σ) (q : CompiledQuery) :
    (pageSizes : List (Option Nat)) → Option ResumeToken → World σ →
      Option (List (Except ExecutionError Row) × Option ResumeToken)
  | [], resume, _ => some ([], resume)
  | pageSize :: more, resume, w => do
      let c ← (Cursor.opened q ⟨pageSize, false⟩ resume).toOption
      let (items, r) := x.drain .ok .never ⟨c, w⟩
      match r.cursor.resumeToken? with
      | none => some (items, none)
      | some t =>
          let t ← ResumeToken.decode? t.encode
          let (others, last) ← firstPages x q more (some t) r.world
          some (items ++ others, last)

/-- A token of the query's own statement is accepted. -/
theorem Cursor.opened_startAt (q : CompiledQuery) (settings : CursorSettings)
    {resume : Option ResumeToken} (own : ∀ t ∈ resume, t.fingerprint = q.fingerprint) :
    opened q settings resume = .ok (startAt q settings (resume.map ResumeToken.token)) := by
  cases resume with
  | none => rfl
  | some t => exact if_pos (own t rfl)

/-- A token that has been accepted is one of the query's own statement. -/
theorem Cursor.own_of_opened {q : CompiledQuery} {settings : CursorSettings}
    {resume : Option ResumeToken} {c : Cursor} (accepted : opened q settings resume = .ok c) :
    ∀ t ∈ resume, t.fingerprint = q.fingerprint := by
  rintro t rfl
  rw [opened, resumeFrom] at accepted
  split at accepted
  · assumption
  · cases accepted

namespace RowTable

variable {t : RowTable}

/-- An enumeration from a token brings the rows that the token stands for. -/
theorem brings_rowsFrom {resume : Option ResumeToken}
    (own : ∀ token ∈ resume, token.fingerprint = t.query.fingerprint) :
    t.query.Brings t.records resume (t.rowsFrom (resume.map ResumeToken.token)) :=
  fun strategy pageSize _ d held quiet => ⟨_, Cursor.opened_startAt t.query ⟨pageSize, true⟩ own,
    drain_rowsFrom strategy pageSize _ held quiet d⟩

/-- A run that stops behind a page: with the rows behind its token the rows returned are whole, and
without a token they are whole already. -/
theorem resumed (strategy : Strategy) {settings : CursorSettings} {resume : Option ResumeToken}
    {c : Cursor} (accepted : Cursor.opened t.query settings resume = .ok c)
    {s : SharedStore} (holds : s.Holds t.query.table t.records) (d : Diagnostics) (calls : List Call) :
    let x : Executor SharedStore := ⟨SharedStore.client, strategy⟩
    let r := x.record calls (Running.observed ⟨c, s, d⟩)
    r.cursor.StopsBehindPage r.history →
      ∃ all, t.query.Brings t.records resume all ∧
        (∀ token, r.cursor.resumeToken? = some token →
          ResumeToken.decode? token.encode = some token ∧
            ∃ rest, t.query.Brings t.records (some token) rest ∧ r.history.rows ++ rest = all) ∧
        (r.cursor.resumeToken? = none → 0 < r.cursor.pages → r.history.rows = all) := by
  intro x r stops
  obtain rfl := Cursor.opened_eq accepted
  obtain ⟨settled, delivered⟩ :=
    x.record_settled t.query settings (resume.map ResumeToken.token) ⟨s, d⟩ calls
  have kept : r.cursor.Kept (resume.map ResumeToken.token) r.history :=
    x.record_kept t.query settings (resume.map ResumeToken.token) ⟨s, d⟩ calls
  have lawful : r.history.Lawful t.query settings (resume.map ResumeToken.token) :=
    x.record_lawful t.query settings (resume.map ResumeToken.token) ⟨s, d⟩ calls
  have answered : r.history.Answered t.Right :=
    x.record_answered (SharedStore.client_keeps t.query.table t.records)
      (fun _ _ _ held given => t.right_of_execute held given) calls _ holds
  have received := received_of_lawful lawful answered
  have consumed := stops.position_eq settled delivered
  obtain ⟨missing, none_missing⟩ := received.rows_complete delivered consumed
  refine ⟨_, brings_rowsFrom (Cursor.own_of_opened accepted), fun token left => ?_,
    fun left begun => ?_⟩
  · obtain ⟨behind, here, rfl⟩ := Option.map_eq_some_iff.1 left
    have own : r.cursor.query = t.query := delivered.query_eq
    rw [kept.token_eq] at here
    refine ⟨ResumeToken.decode?_encode _, _, brings_rowsFrom ?_, missing behind here⟩
    rintro token ⟨⟩
    exact congrArg CompiledQuery.fingerprint own
  · rw [kept.pages_eq] at begun
    refine none_missing ?_ (List.ne_nil_of_length_pos begun)
    rw [← kept.token_eq]
    exact Option.map_eq_none_iff.1 left

/-- First pages from an offset on, by induction on their page sizes: each brings a record at least, so
with a page size for every record that is left they bring all rows that are left. -/
theorem firstPages_offset (strategy : Strategy) {pageSizes : List (Option Nat)} {offset : Nat}
    (resume : Option ResumeToken)
    (here : t.offset (resume.map ResumeToken.token) = .ok offset)
    (own : ∀ token ∈ resume, token.fingerprint = t.query.fingerprint ∧ offset < t.records.length)
    (enough : t.records.length ≤ offset + pageSizes.length) {store : MemoryStore}
    (held : t.Held store) (quiet : store.failures = []) (d : Diagnostics) :
    (⟨MemoryStore.client, strategy⟩ : Executor MemoryStore).firstPages t.query pageSizes resume
      ⟨store, d⟩ = some ((t.rows.drop offset).map .ok, none) := by
  induction pageSizes generalizing offset resume store d with
  | nil =>
      have behind : t.records.length ≤ offset := enough
      have all : t.rows.drop offset = [] := by
        rw [List.drop_eq_nil_iff, t.length_rows]
        exact behind
      cases resume with
      | none =>
          rw [Executor.firstPages, all]
          rfl
      | some token => exact absurd (own token rfl).2 (Nat.not_lt.2 behind)
  | cons pageSize more ih =>
      let settings : CursorSettings := ⟨pageSize, false⟩
      let size := store.limitFor pageSize
      have begun : 0 < size := store.limitFor_pos pageSize
      have accepted := Cursor.opened_startAt t.query settings fun token mem => (own token mem).1
      obtain ⟨next, drained, after, left⟩ := drain_offset strategy settings here held quiet d
      have items : t.toCome settings offset size = (t.rows.drop offset).take size :=
        if_neg Bool.false_ne_true
      have token : next.cursor.nextToken = (t.page offset size).nextToken :=
        left.trans (if_neg Bool.false_ne_true)
      rw [Executor.firstPages, accepted]
      simp only [Except.toOption, bind, Option.bind]
      rw [drained, items]
      cases page : (t.page offset size).nextToken with
      | none =>
          have last : next.cursor.resumeToken? = none := by
            rw [Cursor.resumeToken?, token, page]
            rfl
          have all : (t.rows.drop offset).take size = t.rows.drop offset := by
            have short := t.behind_of_page page
            apply List.take_of_length_le
            rw [List.length_drop, t.length_rows]
            omega
          simp only [last]
          rw [all]
      | some behind =>
          have last : next.cursor.resumeToken? = some ⟨t.query.fingerprint, behind⟩ := by
            rw [Cursor.resumeToken?, token, page, after.query_eq]
            rfl
          obtain ⟨inside, behind_eq⟩ := t.offset_of_page (by rw [page]; rfl)
          rw [page] at behind_eq
          have rest := ih (some ⟨t.query.fingerprint, behind⟩) behind_eq
            (fun token mem => by cases mem; exact ⟨rfl, inside⟩)
            (by rw [List.length_cons] at enough; omega) after.held after.quiet next.world.diagnostics
          simp only [last, ResumeToken.decode?_encode]
          rw [rest, ← List.drop_drop]
          simp only [← List.map_append, List.take_append_drop]

/-- The table that a model names, read by its attributes. -/
def ofModel {model : QueryModel}
    (distinct : (model.properties.map ProjectedProperty.property).Nodup) {records : List Record}
    {rows : List Row}
    (read : records.map (CompiledQuery.compiled model).materializer.materialize = rows.map .ok)
    (words : records.length ≤ Nat.pow 2 64) : RowTable where
  query := .compiled model
  columns := model.attributeNames
  records := records
  rows := rows
  some_column := CompiledQuery.attributeNames_ne_nil model
  statement_eq := CompiledQuery.compiled_statement model
  covered := CompiledQuery.mem_attributeNames distinct
  read := read
  words := words

end RowTable

/-- Records that can all be materialized become rows. -/
theorem Materializer.exists_rows (m : Materializer) {records : List Record}
    (whole : ∀ record ∈ records, (m.materialize record).isOk = true) :
    ∃ rows : List Row, records.map m.materialize = rows.map .ok := by
  induction records with
  | nil => exact ⟨[], rfl⟩
  | cons record records ih =>
      obtain ⟨rows, read⟩ := ih fun other mem => whole other (List.mem_cons_of_mem record mem)
      have first := whole record List.mem_cons_self
      cases made : m.materialize record with
      | ok row => exact ⟨row :: rows, by rw [List.map_cons, made, read, List.map_cons]⟩
      | error e =>
          rw [made] at first
          cases first

namespace EntityMapping

/-- Resuming loses and repeats nothing. For a valid mapping whose table can be read throughout, let an
enumeration of its query stop behind a page, or be left there: begun anywhere, with any settings,
strategy and signals, over a store that others use too as long as they leave the table alone. A token
that it leaves is read back from its text and accepted, and the rows returned so far, followed by the
rows that draining the resumed enumeration brings, are the rows of an enumeration from the same start
that nothing interrupts, each with any page size. Without a token behind a page the rows returned are
all of these. And first pages one after the other, each resumed from the text of the token before, bring
every row once and in order, and leave no token. -/
theorem resume_complete {m : EntityMapping} (valid : m.validate = .ok ()) {records : List Record}
    (whole : ∀ record ∈ records, ((⟨m.entity, m.properties.map PropertyMapping.projected⟩ :
      Materializer).materialize record).isOk = true)
    (words : records.length ≤ Nat.pow 2 64) :
    ∃ model q rows,
      QueryModel.ofMapping m = .ok model ∧ CompiledQuery.ofModel model = .ok q ∧
      q.table = m.table ∧
      q.materializer = ⟨m.entity, m.properties.map PropertyMapping.projected⟩ ∧
      records.map q.materializer.materialize = rows.map .ok ∧
      (∀ (settings : CursorSettings) (resume : Option ResumeToken) (c : Cursor),
        Cursor.opened q settings resume = .ok c →
        ∀ (strategy : Strategy) (s : SharedStore) (d : Diagnostics) (calls : List Call),
          s.Holds m.table records →
          let x : Executor SharedStore := ⟨SharedStore.client, strategy⟩
          let r := x.record calls (Running.observed ⟨c, s, d⟩)
          x.calls calls ⟨c, s, d⟩ = (r.history.outcomes, r.forget) ∧
          (r.cursor.StopsBehindPage r.history →
            ∃ all, q.Brings records resume all ∧
              (∀ t, r.cursor.resumeToken? = some t →
                ResumeToken.decode? t.encode = some t ∧
                  ∃ rest, q.Brings records (some t) rest ∧ r.history.rows ++ rest = all) ∧
              (r.cursor.resumeToken? = none → 0 < r.cursor.pages → r.history.rows = all))) ∧
      q.Brings records none rows ∧
      ∀ (strategy : Strategy) (pageSizes : List (Option Nat)) (s : MemoryStore) (d : Diagnostics),
        s.tables.get? m.table = some records → s.failures = [] →
        records.length ≤ pageSizes.length →
          (⟨MemoryStore.client, strategy⟩ : Executor MemoryStore).firstPages q pageSizes none ⟨s, d⟩ =
            some (rows.map .ok, none) := by
  obtain ⟨model, built, distinct, table, materializer⟩ := exists_compiled valid
  obtain ⟨rows, read⟩ := Materializer.exists_rows _ whole
  rw [← materializer] at read
  let t := RowTable.ofModel distinct read words
  refine ⟨model, t.query, rows, built, CompiledQuery.ofModel_eq model, table, materializer, read,
    ?_, ?_, ?_⟩
  · intro settings resume c accepted strategy s d calls holds x r
    rw [← table] at holds
    exact ⟨x.calls_eq_record calls _, t.resumed strategy accepted holds d calls⟩
  · exact t.brings_rowsFrom (fun _ => nofun)
  · intro strategy pageSizes s d held quiet enough
    rw [← table] at held
    have begins : t.offset none = .ok 0 := rfl
    exact t.firstPages_offset strategy none begins nofun (by rw [Nat.zero_add]; exact enough) held
      quiet d

/-- Three people, all of whom become rows. -/
def threePeople : List Record :=
  [ .ofList [("the \"id\"", .string "a")], .ofList [("Age", .number "7"), ("zip", .bool true)],
    .ofList [("the \"id\"", .string "c"), ("Age", .number "9")] ]

/-- A store with the table of three people. Others put another table while the first request is under
way, and queue a failure before the second one. -/
def sharedPeople : SharedStore where
  store := MemoryStore.empty.insertTable "peo\"ple" threePeople
  others := [fun s => s.insertTable "pets" fourPeople, id, fun s => s.failNext (.transient "busy")]

/-- What the mapping with names that need quoting is translated to. -/
def quotedModel : QueryModel :=
  ⟨"Person", "peo\"ple", quotedNames.properties.map PropertyMapping.projected, by decide, by decide,
    by decide⟩

/-- Three people in pages of two. The second request fails, and resuming brings the third. -/
theorem resume_complete_threePeople :
    let q : CompiledQuery := .compiled quotedModel
    let x : Executor SharedStore := ⟨SharedStore.client, .once⟩
    let c : Cursor := .start q ⟨some 2, true⟩
    let r := x.record (List.replicate 3 ⟨.never, 5⟩)
      (Running.observed ⟨c, sharedPeople, .start .silent⟩)
    quotedNames.validate = .ok () ∧
      (∀ record ∈ threePeople,
        ((⟨quotedNames.entity, quotedNames.properties.map PropertyMapping.projected⟩ :
          Materializer).materialize record).isOk = true) ∧
      threePeople.length ≤ Nat.pow 2 64 ∧
      Cursor.opened q ⟨some 2, true⟩ none = .ok c ∧
      sharedPeople.Holds quotedNames.table threePeople ∧
      r.cursor.StopsBehindPage r.history ∧
      r.cursor.state = .failed ∧ r.history.rows.length = 2 ∧
      ∃ t all rest,
        r.cursor.resumeToken? = some t ∧ ResumeToken.decode? t.encode = some t ∧
        q.Brings threePeople none all ∧ q.Brings threePeople (some t) rest ∧
        r.history.rows ++ rest = all := by
  intro q x c r
  have valid : quotedNames.validate = .ok () := by decide
  have whole : ∀ record ∈ threePeople,
      ((⟨quotedNames.entity, quotedNames.properties.map PropertyMapping.projected⟩ :
        Materializer).materialize record).isOk = true := by
    decide
  have words : threePeople.length ≤ Nat.pow 2 64 := by decide
  have holds : sharedPeople.Holds quotedNames.table threePeople := by
    refine ⟨rfl, ?_⟩
    intro change mem store held
    simp only [sharedPeople, List.mem_cons, List.not_mem_nil, or_false] at mem
    rcases mem with rfl | rfl | rfl
    · have other : quotedNames.table ≠ "pets" := by decide
      exact (SortedMap.get?_insert _ _ _ _).trans ((if_neg other).trans held)
    · exact held
    · exact held
  have stops : r.cursor.StopsBehindPage r.history := .betweenPages (by decide +kernel)
  have failed : r.cursor.state = .failed := by decide +kernel
  have two : r.history.rows.length = 2 := by decide +kernel
  have left : r.cursor.resumeToken?.isSome = true := by decide +kernel
  obtain ⟨model, q', rows, built, compiled, -, -, -, resumed, -, -⟩ :=
    resume_complete valid whole words
  have translated : QueryModel.ofMapping quotedNames = .ok quotedModel := rfl
  obtain rfl : quotedModel = model := Except.ok.inj (translated.symm.trans built)
  obtain rfl : q = q' := Except.ok.inj ((CompiledQuery.ofModel_eq quotedModel).symm.trans compiled)
  obtain ⟨-, complete⟩ := resumed ⟨some 2, true⟩ none c rfl .once sharedPeople (.start .silent)
    (List.replicate 3 ⟨.never, 5⟩) holds
  obtain ⟨all, brings, resumes, -⟩ := complete stops
  obtain ⟨t, token⟩ := Option.isSome_iff_exists.1 left
  obtain ⟨decoded, rest, others, joined⟩ := resumes t token
  exact ⟨valid, whole, words, rfl, holds, stops, failed, two, t, all, rest, token, decoded, brings,
    others, joined⟩

end EntityMapping

end Keyscan
