import Mathlib.Data.List.Induction
import Keyscan.Proofs.Execution.Sent
import Keyscan.Proofs.Provider.Configured

/-!
The page sizes that a provider asks a store for. A request has the page size of its cursor, and any
cursor that is opened sends a request when its turn comes, so the limits of requests are the page sizes
of cursors (`limits_iff_opened`). A cursor has the outermost page size that its expression sets, which
translation has found to be positive, or else the default of the provider. A configuration has its
default checked, but a setup does not: `limits_positive` says what follows.
-/

set_option autoImplicit false

namespace Keyscan

variable {σ : Type}

/-! ### Page sizes of expressions -/

/-- Where no page size that is set is zero, the one that counts is not. -/
theorem QueryExpression.pageSize_options {e : QueryExpression}
    (sized : ∀ o ∈ e.optionSets, o.pageSize ≠ some 0) : e.options.pageSize ≠ some 0 := by
  intro zero
  obtain ⟨o, mem, own⟩ := List.exists_of_findSome?_eq_some zero
  exact sized o mem own

namespace TranslatedQuery

variable {source : MappingSource} {c : MappingCache} {t : TranslatedQuery}

/-- Whatever the source answers, a translated query has the options that are set on it, and none of
them sets a page size of zero. -/
theorem ofScanQuery_options {q : ScanQuery} (translated : (ofScanQuery source q c).1 = .ok t) :
    t.options = q.expression.options ∧ ∀ o ∈ q.expression.optionSets, o.pageSize ≠ some 0 := by
  induction q generalizing t with
  | scan entity =>
      cases named : Text.isBlank entity with
      | true =>
          rw [ofScanQuery, if_pos named] at translated
          cases translated
      | false =>
          rw [ofScanQuery_scan named] at translated
          cases found : (c.mappingFor source entity).1 with
          | error e =>
              rw [found] at translated
              cases translated
          | ok m =>
              rw [found] at translated
              obtain ⟨model, -, rfl⟩ := ofMapping_ok.1 translated
              exact ⟨rfl, fun o mem => absurd mem List.not_mem_nil⟩
  | configure inner o ih =>
      rw [ofScanQuery] at translated
      split at translated
      · cases translated
      · rename_i sized
        obtain ⟨q, result, rfl⟩ := map_ok_iff.1 translated
        obtain ⟨options, others⟩ := ih result
        rw [ScanQuery.expression, QueryExpression.options_configure, options]
        exact ⟨rfl, List.forall_mem_cons.2 ⟨sized, others⟩⟩
  | project inner names ih =>
      rw [ofScanQuery] at translated
      exact ih (project_ok translated)

/-- The same of an expression. -/
theorem ofExpression_options {e : QueryExpression}
    (translated : (ofExpression source e c).1 = .ok t) :
    t.options = e.options ∧ ∀ o ∈ e.optionSets, o.pageSize ≠ some 0 := by
  rw [ofExpression] at translated
  cases shape : ScanQuery.ofExpression e with
  | error error =>
      rw [shape] at translated
      cases translated
  | ok q =>
      rw [shape] at translated
      rw [← ScanQuery.ofExpression_ok_iff.1 shape]
      exact ofScanQuery_options translated

end TranslatedQuery

/-! ### Page sizes of cursors -/

namespace Provider

variable {p : Provider} {d : Diagnostics}

theorem defaults_enter (p : Provider) (d : Diagnostics) (x : Entry) :
    (p.enter d x).2.1.defaults = p.defaults := by
  cases x with
  | request x => rw [enter_request, behind]
  | execute e => rw [enter_execute, enter_request, behind]
  | executeBlocking e => rfl

/-- The page size of a cursor that is opened is the outermost one that is set, and the default where
none is. A page size that is set is not zero. -/
theorem pageSize_opened {x : Entry} {c : Cursor} (opened : (p.enter d x).1.cursor? = some c) :
    c.settings.pageSize = x.expression.options.pageSize.or p.defaults.pageSize ∧
      x.expression.options.pageSize ≠ some 0 := by
  obtain ⟨-, t, translated, settings⟩ := enter_opened opened
  obtain ⟨options, sized⟩ := TranslatedQuery.ofExpression_options translated
  rw [settings, settingsFor, options]
  exact ⟨rfl, QueryExpression.pageSize_options sized⟩

end Provider

/-! ### Requests of sessions -/

namespace Session

/-- A session of a provider whose store writes down what it receives and answers. -/
def recording (p : Provider) (w : World σ) : Session (Recorded σ) :=
  .new p ⟨⟨w.store, []⟩, w.diagnostics⟩

/-- The requests that were sent in a session. -/
def sent (s : Session (Recorded σ)) : List StatementRequest := s.world.requests

/-- The session without its history. -/
def forget (s : Session (Recorded σ)) : Session σ := ⟨s.provider, s.enumerations, s.world.forget⟩

theorem use_forget (client : StoreClient σ) (s : Session (Recorded σ)) (u : Use) :
    s.forget.use client u = (s.use client.recorded u).forget := by
  have enumerations : s.forget.enumerations = s.enumerations := rfl
  have world : s.forget.world = s.world.forget := rfl
  cases u with
  | enter x => rfl
  | turn i t =>
      rw [use, use, enumerations]
      cases s.enumerations[i]? with
      | none => rfl
      | some e =>
          simp only [world, e.turn_forget]
          rfl
  | advance i convert call =>
      rw [use, use, enumerations]
      rcases s.enumerations[i]? with _ | ⟨strategy, cursor, _ | _ | _⟩
      · rfl
      · have ran : Executor.nextAsWithin ⟨client, strategy⟩ convert call.signals (call.extra + 1)
            ⟨cursor, s.world.forget⟩ =
          Prod.map id Running.forget (Executor.nextAsWithin ⟨client.recorded, strategy⟩ convert
            call.signals (call.extra + 1) ⟨cursor, s.world⟩) :=
          Executor.nextAsWithin_forget ⟨client, strategy⟩ convert _ _ ⟨cursor, s.world⟩
        simp only [world, ran]
        rfl
      · rfl
      · rfl

/-- Recording a session does not change it. -/
theorem run_forget (client : StoreClient σ) (uses : List Use) (s : Session (Recorded σ)) :
    s.forget.run client uses = (s.run client.recorded uses).forget := by
  induction uses generalizing s with
  | nil => rfl
  | cons u more ih =>
      change (s.forget.use client u).run client more = _
      rw [use_forget, ih]
      rfl

/-! ### What is asked for -/

/-- All page sizes of open cursors, and those that were asked for, are as they should be. -/
structure Asks (fits : Option Nat → Prop) (s : Session (Recorded σ)) : Prop where
  opened : ∀ e ∈ s.enumerations, fits e.cursor.settings.pageSize
  sent : ∀ request ∈ s.sent, fits request.limit

variable {fits : Option Nat → Prop} {s : Session (Recorded σ)}

/-- A turn of an enumeration, or a whole advance, asks for pages of the size of its cursor. -/
theorem Asks.put (asks : s.Asks fits) {i : Nat} {e : Enumeration}
    (here : s.enumerations[i]? = some e) {next : Enumeration × World (Recorded σ)}
    (asked : e.Asked s.world next) : (s.put i next).Asks fits := by
  obtain ⟨kept, sent, received, sized⟩ := asked
  have own := asks.opened e (List.mem_of_getElem? here)
  refine ⟨fun e' mem => ?_, fun request mem => ?_⟩
  · rcases List.mem_or_eq_of_mem_set mem with before | rfl
    · exact asks.opened e' before
    · rw [kept]
      exact own
  · have mem : request ∈ next.2.requests := mem
    rw [received, List.mem_append] at mem
    rcases mem with before | now
    · exact asks.sent request before
    · rw [sized request now]
      exact own

/-- An entry asks for nothing, and opens a cursor at the most. -/
theorem Asks.enter (asks : s.Asks fits) {x : Provider.Entry}
    (opened : ∀ c, (s.enter x).1.cursor? = some c → fits c.settings.pageSize) :
    (s.enter x).2.Asks fits := by
  refine ⟨fun e mem => ?_, asks.sent⟩
  rcases List.mem_append.1 mem with before | now
  · exact asks.opened e before
  · obtain ⟨c, given, rfl⟩ := Option.map_eq_some_iff.1 (Option.mem_toList.1 now)
    exact opened c given

/-- A use asks for what it should when the cursors that it opens do. -/
theorem Asks.use (asks : s.Asks fits) (client : StoreClient σ) {u : Use}
    (opened : ∀ x, u = .enter x →
      ∀ c, (s.enter x).1.cursor? = some c → fits c.settings.pageSize) :
    (s.use client.recorded u).Asks fits := by
  cases u with
  | enter x => exact asks.enter (opened x rfl)
  | turn i t =>
      rw [Session.use]
      cases here : s.enumerations[i]? with
      | none => exact asks
      | some e => exact asks.put here (e.turn_asked client s.world t)
  | advance i convert call =>
      rw [Session.use]
      rcases here : s.enumerations[i]? with _ | ⟨strategy, cursor, _ | _ | _⟩
      · exact asks
      · exact asks.put here (Enumeration.nextAsWithin_asked ⟨client, strategy⟩ convert
          call.signals (call.extra + 1) cursor s.world)
      · exact asks
      · exact asks

theorem run_append (client : StoreClient σ) (s : Session σ) (uses more : List Use) :
    run client (uses ++ more) s = run client more (run client uses s) :=
  List.foldl_append

/-- So do uses in any order. -/
theorem Asks.run (asks : s.Asks fits) (client : StoreClient σ)
    (opened : ∀ uses x c, ((run client.recorded uses s).enter x).1.cursor? = some c →
      fits c.settings.pageSize) (uses : List Use) : (run client.recorded uses s).Asks fits := by
  induction uses using List.reverseRecOn with
  | nil => exact asks
  | append_singleton uses u ih =>
      rw [run_append]
      exact ih.use client fun x _ c given => opened uses x c given

/-- A cursor that is opened asks for its page size when its turn comes. -/
theorem exists_sent (client : StoreClient σ) {x : Provider.Entry} {c : Cursor}
    (opened : (s.enter x).1.cursor? = some c) :
    ∃ request ∈ (run client.recorded
        [.enter x, .turn s.enumerations.length (.go fun _ => none)] s).sent,
      request.limit = c.settings.pageSize := by
  let e : Enumeration := .start (s.enter x).2.provider.strategy c
  have last : (s.enter x).2.enumerations[s.enumerations.length]? = some e := by
    change (s.enumerations ++ ((s.enter x).1.cursor?.map _).toList)[_]? = _
    rw [opened]
    exact List.getElem?_concat_length
  have sends : e.sends (.go fun _ => none) = [c.request] := by
    have step : c.step false = .fetch := by
      rw [Cursor.step, (Provider.enter_opened opened).1.1]
      rfl
    simp only [Enumeration.sends, e, Enumeration.start, step]
  refine ⟨c.request, ?_, rfl⟩
  change c.request ∈ (use client.recorded (s.enter x).2 (.turn _ _)).sent
  rw [use, last]
  change c.request ∈ (e.turn client.recorded (s.enter x).2.world _).2.2.requests
  rw [e.turn_requests, sends]
  exact List.mem_append_right _ List.mem_cons_self

/-- The limits of requests are the page sizes of the cursors that can be opened. -/
theorem limits_iff_opened (fits : Option Nat → Prop) (p : Provider) (client : StoreClient σ)
    (w : World σ) :
    (∀ uses, ∀ request ∈ (run client.recorded uses (recording p w)).sent, fits request.limit) ↔
      ∀ uses x c, ((run client.recorded uses (recording p w)).enter x).1.cursor? = some c →
        fits c.settings.pageSize := by
  constructor
  · intro limits uses x c opened
    obtain ⟨request, mem, limit⟩ := exists_sent client opened
    rw [← run_append] at mem
    exact limit ▸ limits _ request mem
  · intro opened uses
    have begins : (recording p w).Asks fits := ⟨nofun, nofun⟩
    exact (begins.run client opened uses).sent

theorem defaults_run (client : StoreClient σ) (uses : List Use) (s : Session σ) :
    (run client uses s).provider.defaults = s.provider.defaults := by
  induction uses generalizing s with
  | nil => rfl
  | cons u more ih =>
      refine (ih (s.use client u)).trans ?_
      cases u with
      | enter x => exact s.provider.defaults_enter s.world.diagnostics x
      | turn i t =>
          rw [use]
          split <;> rfl
      | advance i convert call =>
          rw [use]
          split <;> rfl

/-- Whatever was done before, a cursor that is opened has the outermost page size that its expression
sets, which is not zero, or else the default that the provider began with. -/
theorem pageSize_opened (client : StoreClient σ) {p : Provider} {w : World σ} {uses : List Use}
    {x : Provider.Entry} {c : Cursor}
    (opened : ((run client.recorded uses (recording p w)).enter x).1.cursor? = some c) :
    c.settings.pageSize = x.expression.options.pageSize.or p.defaults.pageSize ∧
      x.expression.options.pageSize ≠ some 0 := by
  have own := Provider.pageSize_opened opened
  rwa [defaults_run] at own

end Session

/-! ### Positive limits -/

namespace Provider

/-- Whatever is done with the provider and its enumerations, over any store, every request leaves the
page size to the store or asks for one record at least. -/
def LimitsPositive (p : Provider) : Prop :=
  ∀ (σ : Type) (client : StoreClient σ) (w : World σ) (uses : List Session.Use),
    ∀ request ∈ (Session.run client.recorded uses (.recording p w)).sent,
      ∀ n ∈ request.limit, 1 ≤ n

/-- At some time a cursor can be opened for an expression that sets no page size. -/
def OpensUnsized (p : Provider) : Prop :=
  ∃ (σ : Type) (client : StoreClient σ) (w : World σ) (uses : List Session.Use) (x : Entry)
    (c : Cursor), ((Session.run client.recorded uses (.recording p w)).enter x).1.cursor? = some c ∧
      x.expression.options.pageSize = none

theorem positive_iff {size : Option Nat} : (∀ n ∈ size, 1 ≤ n) ↔ size ≠ some 0 := by
  cases size with
  | none => simp
  | some n => simp [Nat.one_le_iff_ne_zero]

/-- Limits are positive exactly when the default page size is, or when no cursor ever comes to it. -/
theorem limitsPositive_iff {p : Provider} :
    p.LimitsPositive ↔ p.defaults.pageSize ≠ some 0 ∨ ¬ p.OpensUnsized := by
  constructor
  · intro positive
    by_contra both
    obtain ⟨zero, σ, client, w, uses, x, c, opened, unset⟩ :
        p.defaults.pageSize = some 0 ∧ p.OpensUnsized := by
      simpa only [not_or, not_not] using both
    have size := (Session.limits_iff_opened (∀ n ∈ ·, 1 ≤ n) p client w).1 (positive σ client w)
      uses x c opened
    rw [(Session.pageSize_opened client opened).1, unset, zero] at size
    exact positive_iff.1 size rfl
  · intro sized σ client w
    refine (Session.limits_iff_opened (∀ n ∈ ·, 1 ≤ n) p client w).2 fun uses x c opened => ?_
    obtain ⟨size, own⟩ := Session.pageSize_opened client opened
    rw [positive_iff, size]
    cases set : x.expression.options.pageSize with
    | some n =>
        rw [set] at own
        exact own
    | none =>
        rcases sized with default | never
        · exact default
        · exact absurd ⟨σ, client, w, uses, x, c, opened, set⟩ never

/-- With declared mappings a cursor comes to the default unless nothing is declared. -/
theorem opensUnsized_iff {s : ProviderSetup} {p : Provider} (declared : s.external = none)
    (built : s.build = .ok p) : p.OpensUnsized ↔ s.mappings ≠ [] := by
  obtain ⟨r, mappings, sound, follows⟩ := ProviderSetup.follows_build declared built
  rw [← mappings]
  constructor
  · rintro ⟨σ, client, w, uses, x, c, opened, -⟩ nothing
    obtain ⟨models, now⟩ :=
      Session.follows_run (s := .recording p w) follows sound client.recorded uses
    obtain ⟨-, t, translated, -⟩ := enter_opened opened
    obtain ⟨m, mem, -⟩ := (now.translate_ok_iff sound).1 translated
    rw [nothing] at mem
    cases mem
  · intro some_mapping
    obtain ⟨m, mem⟩ := List.exists_mem_of_ne_nil _ some_mapping
    obtain ⟨t, translated⟩ := follows.exists_translate_scan sound (List.mem_map_of_mem mem)
    let w : World MemoryStore := ⟨.empty, .start .recording⟩
    obtain ⟨c, opened⟩ := cursor_opened_iff.2 ⟨t, translated⟩
    have given := congrArg (fun result => (Reply.opened result).cursor?) opened
    exact ⟨MemoryStore, MemoryStore.client, w, [], .execute (.scan m.entity), c, given, rfl⟩

/-- What a valid configuration has for a default page size is positive. -/
theorem limitsPositive_ofConfig {c : ProviderConfig} {d d' : Diagnostics} {p : Provider}
    (made : ofConfig c d = .ok (p, d')) : p.LimitsPositive := by
  cases valid : c.validate with
  | error error =>
      rw [ofConfig, valid] at made
      cases made
  | ok u =>
      rw [ofConfig_valid valid] at made
      cases built : (setupOf c).build with
      | error error =>
          rw [built] at made
          cases made
      | ok q =>
          rw [built] at made
          cases made
          refine limitsPositive_iff.2 (.inl ?_)
          rw [ProviderSetup.defaults_build built]
          change c.defaultPageSize.map UInt32.toNat ≠ some 0
          rw [ne_eq, Option.map_eq_some_iff]
          rintro ⟨n, given, zero⟩
          exact (ProviderConfig.validate_iff.1 valid).1
            (given.trans (congrArg some (UInt32.toNat_inj.1 zero)))

/-- Whatever is done with a provider of a configuration and with its enumerations, over any store, each
request leaves the page size to the store or asks for one record at least. With a provider that is built
it is so exactly when the default it is given is not zero, or when no cursor is ever opened for an
expression without a page size; where mappings are declared, such cursors can be opened as soon as there
is one. -/
theorem limits_positive (p : Provider) :
    (∀ (c : ProviderConfig) (d d' : Diagnostics), ofConfig c d = .ok (p, d') →
      p.LimitsPositive) ∧
    ∀ s : ProviderSetup, s.build = .ok p →
      (p.LimitsPositive ↔ s.defaults.pageSize ≠ some 0 ∨ ¬ p.OpensUnsized) ∧
        (s.external = none → (p.OpensUnsized ↔ s.mappings ≠ [])) := by
  refine ⟨fun c d d' made => limitsPositive_ofConfig made, fun s built => ⟨?_, ?_⟩⟩
  · rw [← ProviderSetup.defaults_build built]
    exact limitsPositive_iff
  · intro declared
    exact opensUnsized_iff declared built

/-- People on pages of ten, as configured, and people and orders on pages of the store's choice. -/
theorem limits_positive_tenPeople :
    (∃ p d', ofConfig tenPeople (.start .recording) = .ok (p, d') ∧ p.LimitsPositive) ∧
      ∃ p, peopleAndOrders.build = .ok p ∧ p.LimitsPositive ∧ p.OpensUnsized := by
  have valid : tenPeople.validate = .ok () := by decide +kernel
  obtain ⟨p, d', made, -⟩ := exists_ofConfig valid (.start .recording)
  obtain ⟨p', built⟩ : ∃ p, peopleAndOrders.build = .ok p := ⟨_, rfl⟩
  obtain ⟨iff, opens⟩ := (limits_positive p').2 peopleAndOrders built
  exact ⟨⟨p, d', made, (limits_positive p).1 _ _ _ made⟩, p', built, iff.2 (.inl nofun),
    (opens rfl).2 (List.cons_ne_nil _ _)⟩

/-- People on pages of no records, unless a query says otherwise. -/
def zeroPeople : ProviderSetup := { peopleAndOrders with defaults := ⟨some 0, true⟩ }

/-- They are asked for like that. A configuration with the same default is not valid. -/
theorem limits_zeroPeople :
    (∃ p, zeroPeople.build = .ok p ∧ ¬ p.LimitsPositive ∧
      (Session.run ScriptedStore.client.recorded
          [.enter (.execute (.scan "Person")), .turn 0 (.go fun _ => none)]
          (.recording p ⟨Session.unevenPeople, .start .recording⟩)).sent =
        [⟨"SELECT \"Id\" FROM \"people@home\"", none, some 0⟩]) ∧
      ProviderConfig.validate { tenPeople with defaultPageSize := some 0 } =
        .error (.invalid "default_page_size must be > 0") := by
  obtain ⟨p, built, sent⟩ : ∃ p, zeroPeople.build = .ok p ∧
      (Session.run ScriptedStore.client.recorded
          [.enter (.execute (.scan "Person")), .turn 0 (.go fun _ => none)]
          (.recording p ⟨Session.unevenPeople, .start .recording⟩)).sent =
        [⟨"SELECT \"Id\" FROM \"people@home\"", none, some 0⟩] :=
    ⟨_, rfl, by decide +kernel⟩
  refine ⟨⟨p, built, fun positive => ?_, sent⟩, rfl⟩
  have limits := positive _ ScriptedStore.client ⟨Session.unevenPeople, .start .recording⟩
    [.enter (.execute (.scan "Person")), .turn 0 (.go fun _ => none)]
  rw [sent] at limits
  exact absurd (limits _ List.mem_cons_self 0 rfl) (by decide)

end Provider

end Keyscan
