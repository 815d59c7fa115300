import Keyscan.Proofs.Execution.Accounts
import Keyscan.Proofs.Provider.Session
import Keyscan.Store.Script

/-!
Counters, events and states of a whole session. Entries and turns come in any order, and advances may
also run in one piece. Every entry counts what it looks up (`Provider.Tallied`) and every turn counts
what it does to its enumeration, so at any time the counters are what the events add up to, what the
cache of compiled queries counts, and what the cursors of the session show.
-/

set_option autoImplicit false

namespace Keyscan

/-! ### Entries -/

namespace Provider

/-- Diagnostics that agree with themselves and with the cache of a provider. -/
structure Tallied (p : Provider) (d : Diagnostics) : Prop where
  agrees : d.Agrees
  /-- Every translated expression is compiled or found. -/
  translated : d.metrics.queriesTranslated = d.metrics.compilations + d.metrics.cacheHits
  compilations : d.metrics.compilations = p.cache.compilations
  kept : p.cache.compilations = p.cache.size
  hits : d.metrics.cacheHits = p.cache.hits

variable {p : Provider} {d : Diagnostics}

/-- The round trips and the ends of enumerations are counted as before. -/
def SameRuns (d d' : Diagnostics) : Prop :=
  d'.metrics.roundTrips = d.metrics.roundTrips ∧ ∀ s, d'.metrics.ended s = d.metrics.ended s

/-- Tallies are kept where the cache of compiled queries gains what the diagnostics count. -/
theorem Tallied.counted (tallied : p.Tallied d) {p' : Provider} {d' : Diagnostics}
    (agrees : d'.Agrees) (rejected compiled found : Nat)
    (metrics : d'.metrics =
      { d.metrics with
        queriesRejected := d.metrics.queriesRejected + rejected
        queriesTranslated := d.metrics.queriesTranslated + (compiled + found)
        compilations := d.metrics.compilations + compiled
        cacheHits := d.metrics.cacheHits + found })
    (compilations : p'.cache.compilations = p.cache.compilations + compiled)
    (size : p'.cache.size = p.cache.size + compiled)
    (hits : p'.cache.hits = p.cache.hits + found) : p'.Tallied d' ∧ SameRuns d d' := by
  have translated := tallied.translated
  refine ⟨⟨agrees, ?_, ?_, ?_, ?_⟩, ?_, fun s => ?_⟩
  · simp only [metrics]
    omega
  · simp only [metrics, compilations, tallied.compilations]
  · rw [compilations, size, tallied.kept]
  · simp only [metrics, hits, tallied.hits]
  · rw [metrics]
  · rw [metrics]
    cases s <;> rfl

/-- A rejected expression is counted as such, and nothing else is. -/
theorem Tallied.rejected (tallied : p.Tallied d) (error : TranslationError)
    (mappings : MappingCache) :
    { p with mappings }.Tallied (noteRejected error d) ∧ SameRuns d (noteRejected error d) := by
  have metrics : (noteRejected error d).metrics = Event.queryRejected.counted d.metrics :=
    Diagnostics.metrics_emit _ _ _
  exact tallied.counted (tallied.agrees.note .queryRejected _) 1 0 0 metrics rfl rfl rfl

/-- A query that is found counts as translated and as a hit. -/
theorem Tallied.found (tallied : p.Tallied d) (m : QueryModel) (q : CompiledQuery)
    (mappings : MappingCache) :
    { p with mappings, cache := { p.cache with hits := p.cache.hits + 1 } }.Tallied
        (noteLookup ⟨q, true⟩ (noteTranslated m d)) ∧
      SameRuns d (noteLookup ⟨q, true⟩ (noteTranslated m d)) := by
  have noted : (noteTranslated m d).Agrees := tallied.agrees.note .queryTranslated _
  have metrics : (noteLookup ⟨q, true⟩ (noteTranslated m d)).metrics =
      Event.compiledQueryCacheHit.counted (Event.queryTranslated.counted d.metrics) :=
    (Diagnostics.metrics_emit _ _ _).trans
      (congrArg Event.compiledQueryCacheHit.counted (Diagnostics.metrics_emit _ _ _))
  exact tallied.counted (noted.note .compiledQueryCacheHit _) 0 0 1 metrics rfl rfl rfl

/-- A query that is compiled counts as translated and as a compilation. -/
theorem Tallied.compiled (tallied : p.Tallied d) (m : QueryModel) (q : CompiledQuery)
    (mappings : MappingCache) :
    { p with
        mappings
        cache := { p.cache with
          entries := (m.key, q) :: p.cache.entries
          compilations := p.cache.compilations + 1 } }.Tallied
        (noteLookup ⟨q, false⟩ (noteTranslated m d)) ∧
      SameRuns d (noteLookup ⟨q, false⟩ (noteTranslated m d)) := by
  have noted : (noteTranslated m d).Agrees := tallied.agrees.note .queryTranslated _
  have metrics : (noteLookup ⟨q, false⟩ (noteTranslated m d)).metrics =
      Event.queryCompiled.counted (Event.queryTranslated.counted d.metrics) :=
    (Diagnostics.metrics_emit _ _ _).trans
      (congrArg Event.queryCompiled.counted (Diagnostics.metrics_emit _ _ _))
  exact tallied.counted (noted.note .queryCompiled _) 0 1 0 metrics rfl rfl rfl

/-- Preparing keeps the tallies, and counts nothing of enumerations. -/
theorem Tallied.prepare (tallied : p.Tallied d) (e : QueryExpression) :
    (p.prepare e d).2.1.Tallied (p.prepare e d).2.2 ∧ SameRuns d (p.prepare e d).2.2 := by
  cases result : (p.translate e).1 with
  | error error =>
      rw [prepare_rejected result]
      exact tallied.rejected error _
  | ok t =>
      obtain ⟨lookup, cache, looked, prepared⟩ := prepare_translated result d
      rw [prepared]
      cases kept : p.cache.get? t.model.key with
      | some q =>
          rw [CompiledCache.getOrCompile_kept kept] at looked
          cases looked
          exact tallied.found t.model q _
      | none =>
          rw [CompiledCache.getOrCompile_new kept] at looked
          cases looked
          exact tallied.compiled t.model (.compiled t.model) _

/-- An entry prepares its expression, or leaves compiled queries and diagnostics as they are. -/
theorem enter_prepares (p : Provider) (d : Diagnostics) (x : Entry) :
    (p.enter d x).2 = (p.prepare x.expression d).2 ∨
      (p.enter d x).2.1.cache = p.cache ∧ (p.enter d x).2.2 = d := by
  cases x with
  | execute e => exact .inl rfl
  | executeBlocking e => exact .inr ⟨rfl, rfl⟩
  | request x =>
      cases x with
      | compile e | cursor e | resume e t => exact .inl rfl
      | explain e =>
          left
          change (p.explain e d).2 = (p.prepare e d).2
          rw [explain]
          obtain ⟨outcome, after⟩ := p.prepare e d
          cases outcome <;> rfl
      | compiled e =>
          right
          refine ⟨?_, rfl⟩
          change (p.compiled e).2.cache = _
          rw [compiled]
          obtain ⟨outcome, mappings⟩ := TranslatedQuery.ofExpression p.source e p.mappings
          cases outcome <;> rfl

/-- Every entry keeps the tallies, and counts nothing of enumerations. -/
theorem Tallied.enter (tallied : p.Tallied d) (x : Entry) :
    (p.enter d x).2.1.Tallied (p.enter d x).2.2 ∧ SameRuns d (p.enter d x).2.2 := by
  rcases p.enter_prepares d x with prepared | ⟨cache, diagnostics⟩
  · rw [prepared]
    exact tallied.prepare x.expression
  · obtain ⟨agrees, translated, compilations, kept, hits⟩ := tallied
    rw [diagnostics]
    refine ⟨⟨agrees, translated, ?_, ?_, ?_⟩, rfl, fun _ => rfl⟩
    · rw [cache, compilations]
    · rw [cache, kept]
    · rw [cache, hits]

/-- A provider that was just made, with new diagnostics that keep their notices. -/
inductive Fresh (p : Provider) : Diagnostics → Prop
  | built {s : ProviderSetup} (made : s.build = .ok p) : Fresh p (.start .recording)
  /-- A configuration is noticed when it is loaded. -/
  | configured {c : ProviderConfig} {d : Diagnostics} (asked : c.logDiagnostics = true)
      (made : ofConfig c (.start .recording) = .ok (p, d)) : Fresh p d

/-- What the provider of a configuration is built from. -/
def setupOf (c : ProviderConfig) : ProviderSetup :=
  ⟨c.mappings, none, c.retry.backoff.strategy, c.settings⟩

/-- A valid configuration is noted by the diagnostics that it asks for, and its provider is built. -/
theorem ofConfig_valid {c : ProviderConfig} (valid : c.validate = .ok ()) (d : Diagnostics) :
    ofConfig c d = (setupOf c).build.map fun p =>
      (p, (if c.logDiagnostics then d else .start .silent).emit .configLoaded
        [("mappings", toString c.mappings.length)]) := by
  rw [ofConfig, valid]
  change (setupOf c).build.bind _ = _
  cases (setupOf c).build <;> rfl

/-- A provider of a configuration is one built, which has noted the configuration. -/
theorem ofConfig_ok {c : ProviderConfig} {d d' : Diagnostics} (asked : c.logDiagnostics = true)
    (made : ofConfig c d = .ok (p, d')) :
    ∃ s : ProviderSetup, s.build = .ok p ∧
      d' = d.emit .configLoaded [("mappings", toString c.mappings.length)] := by
  cases valid : c.validate with
  | error error =>
      rw [ofConfig, valid] at made
      cases made
  | ok u =>
      rw [ofConfig_valid valid, if_pos asked] at made
      cases built : (setupOf c).build with
      | error error =>
          rw [built] at made
          cases made
      | ok q =>
          rw [built] at made
          cases made
          exact ⟨setupOf c, built, rfl⟩

/-- A provider that was just made has counted nothing, and neither have its diagnostics. -/
theorem Fresh.tallied (fresh : p.Fresh d) : p.Tallied d ∧ d.metrics = .zero := by
  have keeps : Sink.recording ≠ .silent := fun same => nomatch same
  have start {s : ProviderSetup} (made : s.build = .ok p) {d : Diagnostics} (agrees : d.Agrees)
      (zero : d.metrics = .zero) : p.Tallied d ∧ d.metrics = .zero := by
    refine ⟨⟨agrees, ?_, ?_, ?_, ?_⟩, zero⟩ <;>
      simp only [zero, ProviderSetup.cache_build made] <;> rfl
  cases fresh with
  | built made => exact start made (Diagnostics.agrees_start keeps) rfl
  | configured asked made =>
      obtain ⟨s, built, rfl⟩ := ofConfig_ok asked made
      exact start built ((Diagnostics.agrees_start keeps).note .configLoaded _) rfl

end Provider

namespace Session

variable {σ : Type}

/-! ### Uses -/

/-- The session with one enumeration and the world as they have become. -/
def put (s : Session σ) (i : Nat) (next : Enumeration × World σ) : Session σ :=
  { s with enumerations := s.enumerations.set i next.1, world := next.2 }

/-- What is done with a session. Enumerations are numbered in the order in which they were opened. -/
inductive Use : Type 1 where
  | enter (x : Provider.Entry)
  | turn (i : Nat) (t : Turn)
  /-- A whole advance, with its conversion; nothing happens while another is under way. -/
  | advance {α : Type} (i : Nat) (convert : Row → Except ConversionError α) (call : Call)

/-- The session after one use. -/
def use (client : StoreClient σ) (s : Session σ) : Use → Session σ
  | .enter x => (s.enter x).2
  | .turn i t =>
      match s.enumerations[i]? with
      | none => s
      | some e => s.put i (e.turn client s.world t).2
  | .advance i convert call =>
      match s.enumerations[i]? with
      | some ⟨strategy, cursor, .nothing⟩ =>
          let x : Executor σ := ⟨client, strategy⟩
          let (_, r) := x.nextAsWithin convert call.signals (call.extra + 1) ⟨cursor, s.world⟩
          s.put i (.start strategy r.cursor, r.world)
      | _ => s

/-- The session after uses, one after the other. -/
def run (client : StoreClient σ) (uses : List Use) (s : Session σ) : Session σ :=
  uses.foldl (use client) s

/-! ### What every use keeps -/

/-- The sum of what the cursors of a session show. -/
def total (s : Session σ) (f : Cursor → Nat) : Nat :=
  s.enumerations.foldr (fun e n => f e.cursor + n) 0

/-- Whatever was counted is accounted for. -/
structure Sound (s : Session σ) : Prop where
  tallied : s.provider.Tallied s.world.diagnostics
  pages : s.world.diagnostics.metrics.roundTrips = s.total Cursor.pages
  ends : ∀ state, s.world.diagnostics.metrics.ended state = s.total (Cursor.endedIn · state)
  enumerations : ∀ e ∈ s.enumerations, e.Sound

/-- Where one summand changes the sum changes by as much. -/
theorem foldr_set (f : Enumeration → Nat) {i : Nat} {enumerations : List Enumeration}
    {e : Enumeration} (here : enumerations[i]? = some e) (next : Enumeration) :
    (enumerations.set i next).foldr (fun e n => f e + n) 0 + f e =
      enumerations.foldr (fun e n => f e + n) 0 + f next := by
  induction enumerations generalizing i with
  | nil => cases here
  | cons first rest ih =>
      cases i with
      | zero =>
          cases here
          simp only [List.set_cons_zero, List.foldr_cons]
          omega
      | succ i =>
          have later := ih (i := i) here
          simp only [List.set_cons_succ, List.foldr_cons]
          omega

theorem total_put {s : Session σ} (f : Cursor → Nat) {i : Nat} {e : Enumeration}
    (here : s.enumerations[i]? = some e) (next : Enumeration × World σ) :
    (s.put i next).total f + f e.cursor = s.total f + f next.1.cursor :=
  foldr_set (fun e => f e.cursor) here next.1

/-- A turn of an enumeration, or a whole advance, accounts for what it counts. -/
theorem Sound.put {s : Session σ} (sound : s.Sound) {i : Nat} {e : Enumeration}
    (here : s.enumerations[i]? = some e) {next : Enumeration × World σ}
    (accounts : Enumeration.Accounts e.cursor s.world.diagnostics next) : (s.put i next).Sound := by
  obtain ⟨⟨agrees, translated, compilations, kept, hits⟩, pages, ends, enumerations⟩ := sound
  obtain ⟨counted, next_sound⟩ := accounts
  refine ⟨⟨counted.agrees agrees, ?_, ?_, kept, ?_⟩, ?_, ?_, ?_⟩
  · change next.2.diagnostics.metrics.queriesTranslated = _
    rw [counted.translated, translated, ← counted.compilations, ← counted.cacheHits]
    rfl
  · exact counted.compilations.trans compilations
  · exact counted.cacheHits.trans hits
  · have total := total_put Cursor.pages here next
    have trips := counted.pages
    change next.2.diagnostics.metrics.roundTrips = _
    omega
  · intro state
    have total := total_put (Cursor.endedIn · state) here next
    have ended := counted.ends state
    have before := ends state
    change next.2.diagnostics.metrics.ended state = _
    omega
  · intro e' mem
    rcases List.mem_or_eq_of_mem_set mem with before | rfl
    · exact enumerations e' before
    · exact next_sound

/-- An entry opens one enumeration at the most, which has not begun. -/
theorem enumerations_enter (s : Session σ) (x : Provider.Entry) :
    (s.enter x).2.enumerations = s.enumerations ∨
      ∃ strategy c, c.state = .notStarted ∧ c.pages = 0 ∧
        (s.enter x).2.enumerations = s.enumerations ++ [.start strategy c] := by
  have opened : (s.enter x).2.enumerations = s.enumerations ++
      ((s.provider.enter s.world.diagnostics x).1.cursor?.map
        (.start (s.provider.enter s.world.diagnostics x).2.1.strategy)).toList :=
    rfl
  cases given : (s.provider.enter s.world.diagnostics x).1.cursor? with
  | none =>
      left
      rw [opened, given]
      exact List.append_nil _
  | some c =>
      right
      obtain ⟨⟨state, pages⟩, -⟩ := Provider.enter_opened given
      refine ⟨(s.provider.enter s.world.diagnostics x).2.1.strategy, c, state, pages, ?_⟩
      rw [opened, given]
      rfl

/-- What a cursor does not show before it begins is not changed by an entry. -/
theorem total_enter (s : Session σ) (x : Provider.Entry) {f : Cursor → Nat}
    (nothing : ∀ c, c.state = .notStarted → c.pages = 0 → f c = 0) :
    (s.enter x).2.total f = s.total f := by
  unfold total
  rcases s.enumerations_enter x with same | ⟨strategy, c, state, pages, opened⟩
  · rw [same]
  · have none_shown : f (Enumeration.start strategy c).cursor = 0 := nothing c state pages
    rw [opened, List.foldr_append, List.foldr_cons, none_shown]
    rfl

/-- An entry accounts for what it counts. -/
theorem Sound.enter {s : Session σ} (sound : s.Sound) (x : Provider.Entry) :
    (s.enter x).2.Sound := by
  obtain ⟨tallied, pages, ends, enumerations⟩ := sound
  obtain ⟨tallied', trips, ended⟩ := tallied.enter x
  refine ⟨tallied', ?_, ?_, ?_⟩
  · rw [s.total_enter x fun c _ none_taken => none_taken, ← pages]
    exact trips
  · intro state
    have nothing (c : Cursor) (fresh : c.state = .notStarted) (_ : c.pages = 0) :
        c.endedIn state = 0 := by
      apply Cursor.endedIn_alive
      rw [fresh]
      rfl
    rw [s.total_enter x nothing, ← ends]
    exact ended state
  · intro e mem
    rcases s.enumerations_enter x with same | ⟨strategy, c, -, -, opened⟩
    · rw [same] at mem
      exact enumerations e mem
    · rw [opened, List.mem_append, List.mem_singleton] at mem
      rcases mem with before | rfl
      · exact enumerations e before
      · exact .inl rfl

/-- Every use accounts for what it counts. -/
theorem Sound.use {s : Session σ} (sound : s.Sound) (client : StoreClient σ) (u : Use) :
    (s.use client u).Sound := by
  cases u with
  | enter x => exact sound.enter x
  | turn i t =>
      rw [Session.use]
      cases here : s.enumerations[i]? with
      | none => exact sound
      | some e =>
          have mem := List.mem_of_getElem? here
          exact sound.put here (Enumeration.turn_accounts client (sound.enumerations e mem) _ t)
  | advance i convert call =>
      rw [Session.use]
      cases here : s.enumerations[i]? with
      | none => exact sound
      | some e =>
          obtain ⟨strategy, cursor, wait⟩ := e
          cases wait with
          | nothing =>
              have accounts := Enumeration.nextAsWithin_accounts ⟨client, strategy⟩ convert
                call.signals (call.extra + 1) cursor s.world
              exact sound.put here ⟨accounts, .inl rfl⟩
          | answer n a | pause n a => exact sound

/-- So do uses in any order. -/
theorem Sound.run {s : Session σ} (sound : s.Sound) (client : StoreClient σ) (uses : List Use) :
    (s.run client uses).Sound := by
  induction uses generalizing s with
  | nil => exact sound
  | cons u more ih => exact ih (sound.use client u)

/-! ### Balance -/

/-- The counters of a session. -/
def metrics (s : Session σ) : Metrics := s.world.diagnostics.metrics

/-- How often an event was noticed in a session. -/
def times (s : Session σ) (event : Event) : Nat :=
  Diagnostics.times s.world.diagnostics.journal event

/-- The number of cursors in a state. -/
def cursorsIn (s : Session σ) (state : CursorState) : Nat :=
  s.enumerations.countP fun e => e.cursor.state = state

/-- Counters, events, the cache of compiled queries and the cursors agree. -/
structure Balanced (s : Session σ) : Prop where
  rejected : s.metrics.queriesRejected = s.times .queryRejected
  translated : s.metrics.queriesTranslated = s.times .queryTranslated
  looked_up : s.metrics.queriesTranslated = s.metrics.compilations + s.metrics.cacheHits
  compiled : s.metrics.compilations = s.times .queryCompiled
  compiled_kept : s.metrics.compilations = s.provider.cache.compilations
  compiled_size : s.provider.cache.compilations = s.provider.cache.size
  found : s.metrics.cacheHits = s.times .compiledQueryCacheHit
  found_kept : s.metrics.cacheHits = s.provider.cache.hits
  pages : s.metrics.roundTrips = s.times .roundTripCompleted
  pages_taken : s.metrics.roundTrips = s.total Cursor.pages
  retries : s.metrics.storeRetries = s.times .storeRetry
  completed : s.metrics.enumerationsCompleted = s.times .enumerationExhausted
  completed_cursors : s.metrics.enumerationsCompleted = s.cursorsIn .exhausted
  cancelled : s.metrics.enumerationsCancelled = s.times .enumerationCancelled
  cancelled_cursors : s.metrics.enumerationsCancelled = s.cursorsIn .cancelled
  failed : s.metrics.enumerationsFailed = s.times .storeFailed + s.times .materializationFailed
  failed_cursors : s.metrics.enumerationsFailed = s.cursorsIn .failed

/-- The cursors that have ended in a state, counted one by one. -/
theorem total_endedIn (s : Session σ) {state : CursorState} (terminal : state.isTerminal = true) :
    s.total (Cursor.endedIn · state) = s.cursorsIn state := by
  unfold total cursorsIn
  induction s.enumerations with
  | nil => rfl
  | cons e more ih =>
      rw [List.foldr_cons, ih, List.countP_cons, Nat.add_comm]
      simp only [Cursor.endedIn, terminal, true_and, decide_eq_true_eq]

/-- What is accounted for is balanced. -/
theorem Sound.balanced {s : Session σ} (sound : s.Sound) : s.Balanced := by
  obtain ⟨⟨agrees, translated, compilations, kept, hits⟩, pages, ends, -⟩ := sound
  have tallies := agrees.tallies
  exact
    { rejected := congrArg Metrics.queriesRejected tallies
      translated := congrArg Metrics.queriesTranslated tallies
      looked_up := translated
      compiled := congrArg Metrics.compilations tallies
      compiled_kept := compilations
      compiled_size := kept
      found := congrArg Metrics.cacheHits tallies
      found_kept := hits
      pages := congrArg Metrics.roundTrips tallies
      pages_taken := pages
      retries := congrArg Metrics.storeRetries tallies
      completed := congrArg Metrics.enumerationsCompleted tallies
      completed_cursors := (ends .exhausted).trans (s.total_endedIn rfl)
      cancelled := congrArg Metrics.enumerationsCancelled tallies
      cancelled_cursors := (ends .cancelled).trans (s.total_endedIn rfl)
      failed := congrArg Metrics.enumerationsFailed tallies
      failed_cursors := (ends .failed).trans (s.total_endedIn rfl) }

/-- A session of a new provider with new diagnostics that keep their notices is balanced, whatever is
entered and whichever enumerations have their turns or advance, in any order and over any store. -/
theorem run_balanced {p : Provider} {d : Diagnostics} (fresh : p.Fresh d) (client : StoreClient σ)
    (store : σ) (uses : List Use) : (run client uses (new p ⟨store, d⟩)).Balanced := by
  obtain ⟨tallied, zero⟩ := fresh.tallied
  have begins : (new p ⟨store, d⟩).Sound :=
    { tallied
      pages := congrArg Metrics.roundTrips zero
      ends := fun state => by
        change d.metrics.ended state = 0
        rw [zero]
        cases state <;> rfl
      enumerations := fun e mem => nomatch mem }
  exact (begins.run client uses).balanced

/-- People on two pages, the second of which comes after a failure, and then one of no number. -/
def unevenPeople : ScriptedStore where
  answers :=
    [ .ok ⟨[.ofList [("Id", .number "1")], .ofList [("Id", .number "2")]], some "more"⟩,
      .error (.transient "busy"), .ok (.last [.ofList [("Id", .string "three")]]) ]
  latency := 10
  log := []

/-- People and orders in turns: the orders are cancelled while they wait, people are read to the record
that is none, and a filter is rejected. -/
def peopleAndOrdersInTurns : List Use :=
  let go : Turn := .go fun _ => none
  let people : QueryExpression := .scan "Person"
  [ .enter (.request (.compile people)), .enter (.execute people), .turn 0 go,
    .enter (.request (.cursor (.scan "Order"))), .turn 1 go, .turn 0 go, .turn 1 .cancel,
    .enter (.request (.explain (.filter people "old"))), .advance 0 .ok ⟨.never, 3⟩,
    .advance 0 .ok ⟨.never, 3⟩, .advance 0 .ok ⟨.never, 5⟩, .advance 0 .ok ⟨.never, 5⟩ ]

theorem run_balanced_peopleAndOrders :
    ∃ p, peopleAndOrders.build = .ok p ∧
      let s := run ScriptedStore.client peopleAndOrdersInTurns
        (new p ⟨unevenPeople, .start .recording⟩)
      s.Balanced ∧ s.cursorsIn .failed = 1 ∧ s.cursorsIn .cancelled = 1 ∧
        s.times .roundTripCompleted = 2 ∧ s.times .queryRejected = 1 := by
  refine ⟨_, rfl, run_balanced (.built (s := peopleAndOrders) rfl) ScriptedStore.client unevenPeople
    peopleAndOrdersInTurns, ?_, ?_, ?_, ?_⟩
  · decide +kernel
  · decide +kernel
  · decide +kernel
  · decide +kernel

end Session

end Keyscan
