import Keyscan.Proofs.Compiled.Meaning
import Keyscan.Proofs.Execution.TableScan
import Keyscan.Proofs.Mapping

/-!
Scans of mapped tables, from a mapping to its rows. A valid mapping has a query whose statement names
the attributes that its fields are read from, so that draining it over a store in memory is a
`TableScan`, and brings what the full records of the table become.
-/

set_option autoImplicit false

namespace Keyscan

namespace EntityMapping

/-- What a scan of the table that a mapping names brings: the items, the cursor it ends with, and how
many requests it takes with pages of a size. -/
inductive Scanned (m : EntityMapping) (q : CompiledQuery) (records : List Record) (size : Nat) :
    List (Except ExecutionError Row) → Cursor → Nat → Prop
  /-- Every record becomes a row. -/
  | exhausted (rows : List Row) {c : Cursor}
      (read : records.map q.materializer.materialize = rows.map .ok)
      (state : c.state = .exhausted) (position : c.position = records.length) :
      Scanned m q records size (rows.map .ok) c (max 1 ((records.length + size - 1) / size))
  /-- The first record that becomes none is reported at its position, with the property at fault. -/
  | failed (before : List Record) (record : Record) (after : List Record) (rows : List Row)
      (p : PropertyMapping) {e : ConversionError} {c : Cursor}
      (parts : records = before ++ record :: after)
      (read : before.map q.materializer.materialize = rows.map .ok)
      (fails : q.materializer.materialize record = .error e) (mapped : p ∈ m.properties)
      (fault : Materializer.readField p.projected record = .error e)
      (binding : e.binding = some ⟨p.name, p.attributeName⟩) (state : c.state = .failed) :
      Scanned m q records size
        (rows.map .ok ++
          [.error (.materializationFailed ((e.withTable m.table).withPosition before.length))])
        c (before.length / size + 1)

end EntityMapping

namespace TableScan

/-- The scan of the table that a model names, by its attributes. -/
def ofModel {model : QueryModel}
    (distinct : (model.properties.map ProjectedProperty.property).Nodup) {s : MemoryStore}
    {records : List Record} (held : s.tables.get? model.table = some records)
    (quiet : s.failures = []) (words : records.length ≤ Nat.pow 2 64) (pageSize : Option Nat)
    (strategy : Strategy) : TableScan where
  query := .compiled model
  pageSize := pageSize
  store := s
  records := records
  strategy := strategy
  columns := model.attributeNames
  some_column := by simpa [QueryModel.attributeNames] using model.has_property
  statement_eq := rfl
  covered := fun p mem => by
    rw [CompiledQuery.compiled_fields distinct] at mem
    exact List.mem_map_of_mem mem
  held := held
  quiet := quiet
  words := words

/-- What draining a scan of a mapped table brings, and the requests that it takes. -/
theorem Drained.scanned {scan : TableScan} {m : EntityMapping} (table : scan.query.table = m.table)
    (materializer : scan.query.materializer =
      ⟨m.entity, m.properties.map PropertyMapping.projected⟩)
    {items : List (Except ExecutionError Row)} {r : Running MemoryStore}
    (drained : scan.Drained 0 scan.records items r) :
    ∃ requests, m.Scanned scan.query scan.records scan.size items r.cursor requests ∧
      r.world.store.log.length = scan.store.log.length + requests := by
  generalize whole : scan.records = records at drained
  cases drained with
  | @ended _ rows received d read begun stage =>
      refine ⟨received, ?_, scan.length_log received⟩
      rw [scan.received_of_length begun stage, whole]
      exact .exhausted rows read rfl rfl
  | @failed before record after rows e position received d read fails place begun needed covered =>
      obtain ⟨earlier, field, later, split, _, fault, binding⟩ :=
        Materializer.materialize_error fails
      have mem : field ∈ scan.query.materializer.fields := by rw [split]; simp
      rw [materializer] at mem
      obtain ⟨p, mapped, rfl⟩ := List.mem_map.1 mem
      rw [Nat.zero_add] at place
      subst place
      refine ⟨received, ?_, scan.length_log received⟩
      rw [scan.received_of_position begun needed covered, table]
      exact .failed before record after rows p rfl read fails mapped fault binding rfl

end TableScan

namespace EntityMapping

/-- From a mapping to its rows: draining the query of a valid mapping over a store in memory brings
what the records of its table become, up to the first that fails. Rows and error are those of
`deliverAll`, which knows no pages, so they are the same for every page size; the number of requests is
that of the pages needed. The length of a table in memory is a machine word. -/
theorem drain_scanned {m : EntityMapping} (valid : m.validate = .ok ()) {s : MemoryStore}
    {records : List Record} (held : s.tables.get? m.table = some records)
    (quiet : s.failures = []) (words : records.length ≤ Nat.pow 2 64) (pageSize : Option Nat)
    (strategy : Strategy) (d : Diagnostics) :
    ∃ model q items r requests,
      QueryModel.ofMapping m = .ok model ∧ CompiledQuery.ofModel model = .ok q ∧
      q.materializer = ⟨m.entity, m.properties.map PropertyMapping.projected⟩ ∧
      (⟨MemoryStore.client, strategy⟩ : Executor MemoryStore).drain .ok .never
        ⟨.start q ⟨pageSize, true⟩, s, d⟩ = (items, r) ∧
      items = q.deliverAll 0 records ∧
      m.Scanned q records (max (pageSize.getD s.defaultPageSize) 1) items r.cursor requests ∧
      r.world.store.log.length = s.log.length + requests := by
  obtain ⟨model, built, distinct, table, materializer⟩ := exists_compiled valid
  rw [← table] at held
  let scan := TableScan.ofModel distinct held quiet words pageSize strategy
  obtain ⟨items, r, run, delivery, drained⟩ := scan.drain_start d
  obtain ⟨requests, scanned, logged⟩ := drained.scanned table materializer
  exact ⟨model, scan.query, items, r, requests, built, CompiledQuery.ofModel_eq model, materializer,
    run, delivery, scanned, logged⟩

/-- A mapping whose names need quoting. -/
def quotedNames : EntityMapping where
  entity := "Person"
  table := "peo\"ple"
  properties := [⟨"Id", some "the \"id\"", .string, false⟩, ⟨"Age", none, .integer .int, true⟩]

/-- Four people, the third of an age that is no number. -/
def fourPeople : List Record :=
  [ .ofList [("the \"id\"", .string "a")], .ofList [("Age", .number "7"), ("zip", .bool true)],
    .ofList [("Age", .string "old")], .ofList [] ]

/-- A store with the table of four people. -/
def peopleStore : MemoryStore := MemoryStore.empty.insertTable "peo\"ple" fourPeople

/-- The four people in pages of two. -/
theorem drain_scanned_fourPeople :
    quotedNames.validate = .ok () ∧
      peopleStore.tables.get? quotedNames.table = some fourPeople ∧ peopleStore.failures = [] ∧
      fourPeople.length ≤ Nat.pow 2 64 ∧
      ∃ model q items r requests,
        QueryModel.ofMapping quotedNames = .ok model ∧ CompiledQuery.ofModel model = .ok q ∧
        q.materializer =
          ⟨quotedNames.entity, quotedNames.properties.map PropertyMapping.projected⟩ ∧
        (⟨MemoryStore.client, .once⟩ : Executor MemoryStore).drain .ok .never
          ⟨.start q ⟨some 2, true⟩, peopleStore, .start .silent⟩ = (items, r) ∧
        items = q.deliverAll 0 fourPeople ∧
        quotedNames.Scanned q fourPeople (max ((some 2).getD peopleStore.defaultPageSize) 1) items
          r.cursor requests ∧
        r.world.store.log.length = peopleStore.log.length + requests :=
  ⟨by decide, rfl, rfl, by decide,
    drain_scanned (by decide) rfl rfl (by decide) (some 2) .once (.start .silent)⟩

example :
    let q : CompiledQuery :=
      .compiled ⟨"Person", "peo\"ple", quotedNames.properties.map PropertyMapping.projected,
        by decide, by decide, by decide⟩
    let run := (⟨MemoryStore.client, .once⟩ : Executor MemoryStore).drain .ok .never
      ⟨.start q ⟨some 2, true⟩, peopleStore, .start .silent⟩
    run.1.map Except.isOk = [true, true, false] ∧ run.2.world.store.log.length = 2 := by
  decide +kernel

end EntityMapping

end Keyscan
