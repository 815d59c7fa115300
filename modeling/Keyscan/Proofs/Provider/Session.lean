import Keyscan.Proofs.Execution.Turns
import Keyscan.Proofs.Provider.Entries

/-!
A provider in use, with the enumerations that were opened and the store that they all read. Entries
and turns come in any order. Entering opens enumerations and notes what it does, but sends nothing:
an expression that is rejected is rejected before any mapping is looked up or anything compiled, for
the outermost operation that cannot be carried out if there is one.
-/

set_option autoImplicit false

namespace Keyscan

/-- A provider, the enumerations opened by it in order, and the world of both. -/
structure Session (σ : Type) where
  provider : Provider
  enumerations : List Enumeration
  world : World σ

namespace Session

variable {σ : Type}

/-- A session in which nothing was entered yet. -/
def new (p : Provider) (w : World σ) : Session σ := ⟨p, [], w⟩

/-- The reply to an entry, and the session afterwards: a cursor that is given is one more
enumeration. -/
def enter (s : Session σ) (x : Provider.Entry) : Provider.Reply × Session σ :=
  let (reply, provider, diagnostics) := s.provider.enter s.world.diagnostics x
  (reply,
    ⟨provider, s.enumerations ++ (reply.cursor?.map (.start provider.strategy)).toList,
      { s.world with diagnostics }⟩)

/-- The session after entries, one after the other. -/
def enterAll (s : Session σ) (entries : List Provider.Entry) : Session σ :=
  entries.foldl (fun s x => (s.enter x).2) s

theorem store_enter (s : Session σ) (x : Provider.Entry) :
    (s.enter x).2.world.store = s.world.store :=
  rfl

/-- Entries never reach the store. -/
theorem store_enterAll (s : Session σ) (entries : List Provider.Entry) :
    (s.enterAll entries).world.store = s.world.store := by
  induction entries generalizing s with
  | nil => rfl
  | cons x more ih => exact (ih (s.enter x).2).trans (s.store_enter x)

end Session

/-- An operation that cannot be carried out makes an expression one with an outermost such
operation. -/
theorem QueryExpression.exists_unsupported {e node : QueryExpression} (mem : node ∈ e.chain)
    (unsupported : node.isSupported = false) : ∃ first, e.unsupported? = some first := by
  rw [← Option.isSome_iff_exists, unsupported?, List.find?_isSome]
  exact ⟨node, mem, by rw [unsupported]; rfl⟩

/-- An expression with an operation that cannot be carried out is rejected for the outermost one,
whatever else is wrong with it, and no mapping is looked up. No entry to a provider sends a request,
in whatever state the provider is; and an entry that translation rejects does not touch the compiled
queries or their counters, and tells so unless it is the one that blocks. -/
theorem rejected_first :
    (∀ e : QueryExpression, (∃ node ∈ e.chain, node.isSupported = false) →
      ∃ first error, e.unsupported? = some first ∧
        error.code = "AERO_QUERY_UNSUPPORTED_OPERATION" ∧
        error.construct? = some first.constructName ∧
        ∀ source c, TranslatedQuery.ofExpression source e c = (.error error, c)) ∧
    ∀ (σ : Type) (s : Session σ),
      (∀ entries, (s.enterAll entries).world.store = s.world.store) ∧
      ∀ (x : Provider.Entry) (error : TranslationError),
        (s.provider.translate x.expression).1 = .error error →
        (s.enter x).2.provider.cache = s.provider.cache ∧
          ((∀ e, x ≠ .executeBlocking e) → (s.enter x).1.Tells (.translation error)) := by
  constructor
  · rintro e ⟨node, mem, unsupported⟩
    obtain ⟨first, found⟩ := QueryExpression.exists_unsupported mem unsupported
    obtain ⟨detail, rejected⟩ := TranslatedQuery.ofExpression_unsupported found
    exact ⟨first, .unsupported first.constructName detail, found, rfl, rfl, rejected⟩
  · intro σ s
    refine ⟨s.store_enterAll, fun x error rejected => ?_⟩
    exact ⟨Provider.enter_cache rejected, Provider.enter_tells rejected⟩

end Keyscan
