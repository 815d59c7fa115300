import Keyscan.Proofs.Json.Values
import Keyscan.Proofs.Provider.Balance

/-!
Configurations that are accepted can be used. A configuration is checked when it is read, its mappings
again when the provider registers them, when they are looked up, and when a model is made of them. The
first check implies all the others (`validate_iff`, `exists_ofConfig`). So whatever was done with the
provider before, a scan is translated exactly for the declared entities (`exists_translate_scan`,
`translate_undeclared`), and nothing behind translation fails (`enter_succeeds`).
-/

set_option autoImplicit false

namespace Keyscan

/-! ### What a valid configuration promises -/

/-- Where the delays are in order, backoff has them as they are configured. -/
theorem RetryConfig.backoff_eq {r : RetryConfig} (ordered : r.baseDelay.toNat ≤ r.maxDelay.toNat) :
    r.backoff = ⟨r.maxRetries.toNat, r.baseDelay.toNat, r.maxDelay.toNat, ordered, 1⟩ := by
  rw [backoff, Backoff.of]
  congr 1
  exact Nat.max_eq_left ordered

namespace ProviderConfig

variable {c : ProviderConfig}

/-- What makes a configuration valid. -/
theorem validate_iff :
    c.validate = .ok () ↔
      c.defaultPageSize ≠ some 0 ∧ c.retry.baseDelay ≤ c.retry.maxDelay ∧
        ∃ r, MappingRegistry.ofList c.mappings = .ok r := by
  rw [validate]
  split
  · rename_i zero
    exact iff_of_false (by simp) fun valid => valid.1 zero
  split
  · rename_i crossed
    exact iff_of_false (by simp) fun valid => absurd valid.2.1 (UInt64.not_le.2 crossed)
  · rename_i sized ordered
    rw [registry]
    cases MappingRegistry.ofList c.mappings with
    | error e => exact iff_of_false (by simp [Except.map, Except.mapError]) (by simp)
    | ok r => exact iff_of_true rfl ⟨sized, UInt64.not_lt.1 ordered, r, rfl⟩

/-- The configuration in a text is valid. -/
theorem validate_of_ofText {text : String} (accepted : ofText text = .ok c) :
    c.validate = .ok () := by
  rw [ofText] at accepted
  cases given : read text with
  | error e =>
      rw [given] at accepted
      cases accepted
  | ok c' =>
      cases valid : c'.validate with
      | error e => simp [given, bind, Except.bind, valid] at accepted
      | ok u =>
          simp only [given, bind, Except.bind, valid] at accepted
          cases accepted
          exact valid

end ProviderConfig

namespace Provider

/-- A valid configuration gives a provider of its mappings, with its backoff. -/
theorem exists_ofConfig {c : ProviderConfig} (valid : c.validate = .ok ()) (d : Diagnostics) :
    ∃ p d', ofConfig c d = .ok (p, d') ∧ p.strategy = c.retry.backoff.strategy ∧
      ∃ r : MappingRegistry, r.mappings = c.mappings ∧ r.Sound ∧ p.Follows r [] := by
  obtain ⟨-, -, r, registered⟩ := ProviderConfig.validate_iff.1 valid
  obtain ⟨p, built, strategy⟩ :
      ∃ p, (setupOf c).build = .ok p ∧ p.strategy = c.retry.backoff.strategy := by
    rw [ProviderSetup.build, ProviderSetup.mappingSource_declared rfl, setupOf, registered]
    exact ⟨_, rfl, rfl⟩
  rw [ofConfig_valid valid, built]
  exact ⟨p, _, rfl, strategy, ProviderSetup.follows_build rfl built⟩

/-! ### Scans -/

/-- The requests that look at one expression from its beginning. -/
def Request.openings (e : QueryExpression) : List Request := [.compile e, .explain e, .cursor e]

theorem Request.expression_openings {e : QueryExpression} {x : Request} (mem : x ∈ openings e) :
    x.expression = e := by
  simp only [openings, List.mem_cons, List.not_mem_nil, or_false] at mem
  obtain rfl | rfl | rfl := mem <;> rfl

/-- Whether the caller is given what was asked for. -/
def Reply.Succeeds : Reply → Prop
  | .query result => ∃ q, result = .ok q
  | .explained x => ∃ q size follow, x = .accepted q size follow
  | .opened result => ∃ c, result = .ok c
  | .rows result => ∃ rows, result = .ok rows

variable {p : Provider} {e : QueryExpression} {r : MappingRegistry} {models : List QueryModel}

/-- Nothing behind translation fails. -/
theorem enter_succeeds {t : TranslatedQuery} (translated : (p.translate e).1 = .ok t)
    (d : Diagnostics) {x : Request} (mem : x ∈ Request.openings e) :
    (p.enter d (.request x)).1.Succeeds := by
  obtain ⟨lookup, cache, -, prepared⟩ := prepare_translated translated d
  simp only [Request.openings, List.mem_cons, List.not_mem_nil, or_false] at mem
  obtain rfl | rfl | rfl := mem
  · change ∃ q, (p.prepare e d).1.map PreparedQuery.query = .ok q
    rw [prepared]
    exact ⟨_, rfl⟩
  · change ∃ q size follow, (p.explain e d).1 = .accepted q size follow
    rw [explain, prepared]
    exact ⟨_, _, _, rfl⟩
  · exact cursor_opened_iff.2 ⟨t, translated⟩

/-- Why a scan of an entity that is not declared is rejected. -/
def undeclared (entity : String) : TranslationError :=
  if Text.isBlank entity then .invalid "scan requires an entity name"
  else .mappingFailed (.unknownEntity entity)

/-- A scan is translated where the entity is declared. -/
theorem Follows.exists_translate_scan (follows : p.Follows r models) (sound : r.Sound)
    {entity : String} (declared : entity ∈ r.mappings.map EntityMapping.entity) :
    ∃ t, (p.translate (.scan entity)).1 = .ok t := by
  obtain ⟨m, mem, rfl⟩ := List.mem_map.1 declared
  obtain ⟨model, built, -⟩ := QueryModel.exists_ofMapping (sound.wellFormed m mem)
  exact ⟨_, follows.translate_scan sound mem built⟩

/-- A scan is rejected where the entity is not declared. -/
theorem Follows.translate_undeclared (follows : p.Follows r models) (sound : r.Sound)
    {entity : String} (unknown : entity ∉ r.mappings.map EntityMapping.entity) :
    (p.translate (.scan entity)).1 = .error (undeclared entity) := by
  have scan : TranslatedQuery.ofExpression r.source (.scan entity) p.mappings =
      TranslatedQuery.ofScanQuery r.source (.scan entity) p.mappings := rfl
  rw [Provider.translate, follows.source, scan, undeclared]
  cases named : Text.isBlank entity with
  | true =>
      rw [TranslatedQuery.ofScanQuery, if_pos named]
      rfl
  | false =>
      rw [TranslatedQuery.ofScanQuery_scan named, (follows.kept.mappingFor sound entity).1,
        MappingRegistry.resolve, MappingRegistry.find?_eq_none_iff.2 unknown]
      rfl

end Provider

/-! ### Any use before -/

namespace Session

variable {σ : Type} {s : Session σ} {r : MappingRegistry} {models : List QueryModel}

/-- Nothing that is done with a session leads its provider away from the registry. -/
theorem follows_run (follows : s.provider.Follows r models) (sound : r.Sound)
    (client : StoreClient σ) (uses : List Use) :
    ∃ models', (run client uses s).provider.Follows r models' := by
  induction uses generalizing s models with
  | nil => exact ⟨models, follows⟩
  | cons u uses ih =>
      have next : ∃ models', (use client s u).provider.Follows r models' := by
        cases u with
        | enter x =>
            obtain ⟨models', follows', -⟩ := follows.enter sound s.world.diagnostics x
            exact ⟨models', follows'⟩
        | turn i t =>
            rw [use]
            split <;> exact ⟨models, follows⟩
        | advance i convert call =>
            rw [use]
            split <;> exact ⟨models, follows⟩
      obtain ⟨models', follows'⟩ := next
      exact ih follows'

end Session

/-- A configuration that is read from a text can be used. It gives a provider, and whatever is done
with the provider and its enumerations, over any store, after that a scan of an entity that is declared
can be compiled, explained and opened, while a scan of any other name is rejected by translation: as
invalid when the name is blank, and otherwise because there is no mapping. The backoff of the provider
has the retries and delays that are configured, which its constructor leaves as they are. -/
theorem ProviderConfig.usable_of_ofText {text : String} {c : ProviderConfig}
    (accepted : ProviderConfig.ofText text = .ok c) (d : Diagnostics) :
    ∃ p d', Provider.ofConfig c d = .ok (p, d') ∧
      (∀ (σ : Type) (client : StoreClient σ) (store : σ) (uses : List Session.Use)
          (entity : String),
        let s := Session.run client uses (.new p ⟨store, d'⟩)
        (entity ∈ c.mappings.map EntityMapping.entity →
          ∀ x ∈ Provider.Request.openings (.scan entity), (s.enter (.request x)).1.Succeeds) ∧
        (entity ∉ c.mappings.map EntityMapping.entity →
          ∃ error : TranslationError,
            error.code =
              (if Text.isBlank entity then "AERO_QUERY_INVALID" else "AERO_QUERY_MAPPING_FAILED") ∧
            ∀ x ∈ Provider.Request.openings (.scan entity),
              (s.enter (.request x)).1.Tells (.translation error))) ∧
      p.strategy = c.retry.backoff.strategy ∧
      c.retry.baseDelay.toNat ≤ c.retry.maxDelay.toNat ∧
      c.retry.backoff.maxRetries = c.retry.maxRetries.toNat ∧
      c.retry.backoff.baseDelay = c.retry.baseDelay.toNat ∧
      c.retry.backoff.maxDelay = c.retry.maxDelay.toNat := by
  have valid := validate_of_ofText accepted
  have ordered := UInt64.le_iff_toNat_le.1 (validate_iff.1 valid).2.1
  obtain ⟨p, d', configured, strategy, r, mappings, sound, follows⟩ :=
    Provider.exists_ofConfig valid d
  refine ⟨p, d', configured, fun σ client store uses entity => ?_, strategy, ordered, ?_⟩
  · obtain ⟨models, now⟩ :=
      Session.follows_run (s := .new p ⟨store, d'⟩) follows sound client uses
    rw [← mappings]
    refine ⟨fun declared x mem => ?_, fun unknown => ⟨Provider.undeclared entity, ?_, ?_⟩⟩
    · obtain ⟨t, translated⟩ := now.exists_translate_scan sound declared
      exact Provider.enter_succeeds translated _ mem
    · rw [Provider.undeclared]
      split <;> rfl
    · intro x mem
      have rejected := now.translate_undeclared sound unknown
      rw [← Provider.Request.expression_openings mem] at rejected
      exact Provider.enter_tells rejected nofun
  · rw [RetryConfig.backoff_eq ordered]
    exact ⟨rfl, rfl, rfl⟩

/-- People on pages of ten, with one delay before both retries. -/
def tenPeople : ProviderConfig :=
  { ProviderConfig.standard with
    defaultPageSize := some 10
    retry := ⟨2, 7, 7⟩
    mappings := [⟨"Person", "people@home", [⟨"Id", none, .integer .int, false⟩]⟩] }

/-- After any use people can be asked for, and orders cannot. -/
theorem ProviderConfig.usable_of_ofText_tenPeople :
    ProviderConfig.ofText tenPeople.wire = .ok tenPeople ∧
      ∃ p d', Provider.ofConfig tenPeople (.start .recording) = .ok (p, d') ∧
        (∀ uses, let s := Session.run ScriptedStore.client uses (.new p ⟨Session.unevenPeople, d'⟩)
          (∀ x ∈ Provider.Request.openings (.scan "Person"), (s.enter (.request x)).1.Succeeds) ∧
          ∃ error : TranslationError, error.code = "AERO_QUERY_MAPPING_FAILED" ∧
            ∀ x ∈ Provider.Request.openings (.scan "Order"),
              (s.enter (.request x)).1.Tells (.translation error)) ∧
        ∀ request, p.strategy.ceiling request = 2 := by
  have number (n : Nat) (small : n < 100) : (Json.nat n).Exact :=
    ⟨n, rfl, by omega, by rw [Json.wordLimit]; omega⟩
  have exact : tenPeople.toJson.Exact :=
    ⟨number 10 (by decide), trivial,
      ⟨number 2 (by decide), number 7 (by decide), number 7 (by decide), trivial⟩, trivial,
      ⟨⟨trivial, trivial, ⟨⟨trivial, trivial, trivial, trivial⟩, trivial⟩, trivial⟩, trivial⟩,
      trivial⟩
  have given : Json.read? tenPeople.wire = some tenPeople.toJson := by
    rw [wire, Json.read?_print exact, if_pos (by decide)]
  have accepted : ProviderConfig.ofText tenPeople.wire = .ok tenPeople := by
    rw [ofText, read, given]
    decide +kernel
  obtain ⟨p, d', configured, scans, strategy, -⟩ :=
    ProviderConfig.usable_of_ofText accepted (.start .recording)
  refine ⟨accepted, p, d', configured, fun uses => ⟨?_, ?_⟩, fun request => by rw [strategy]; rfl⟩
  · exact (scans _ _ _ uses "Person").1 (by decide)
  · obtain ⟨error, code, told⟩ := (scans _ _ _ uses "Order").2 (by decide)
    exact ⟨error, code, told⟩

end Keyscan
