import Keyscan.Execution.Strategy
import Keyscan.Proofs.Time.Span

/-!
The delays of backoff. In exact arithmetic the delay before a retry is the base times a power of two,
and no more than the cap (`delayFor_eq_min`): a product beyond all delays is beyond the cap. The power
stops at the greatest factor, and still the delays never decrease.

`Span.delay` works a delay out in machine words. It is the same delay, so nothing overflows in between
(`nanoseconds_delay`).
-/

set_option autoImplicit false

namespace Keyscan

/-! ### Exact delays -/

namespace Backoff

/-- The factor doubles for 32 retries. -/
theorem factor_of_le {retry : Nat} (early : retry ≤ 32) : factor retry = Nat.pow 2 (retry - 1) :=
  if_pos (by omega)

/-- Behind them it is the greatest factor. -/
theorem factor_of_lt {retry : Nat} (late : 32 < retry) : factor retry = maxFactor :=
  if_neg (by omega)

theorem factor_pos (retry : Nat) : 0 < factor retry := by
  rw [factor]
  split
  · exact Nat.pow_pos (by decide)
  · decide

/-- A power of two that is a factor is less than the greatest factor. -/
theorem factor_le (retry : Nat) : factor retry ≤ maxFactor := by
  rw [factor]
  split
  · rename_i early
    calc Nat.pow 2 (retry - 1) ≤ Nat.pow 2 31 := Nat.pow_le_pow_right (by decide) (by omega)
      _ ≤ maxFactor := by decide
  · exact Nat.le_refl _

theorem factor_mono {retry later : Nat} (after : retry ≤ later) : factor retry ≤ factor later := by
  by_cases early : later ≤ 32
  · rw [factor_of_le early, factor_of_le (Nat.le_trans after early)]
    exact Nat.pow_le_pow_right (by decide) (by omega)
  · rw [factor_of_lt (Nat.lt_of_not_le early)]
    exact factor_le retry

/-- The factor doubles from retry to retry, up to the greatest factor. -/
theorem factor_add_two (n : Nat) : factor (n + 2) = min (factor (n + 1) * 2) maxFactor := by
  rcases Nat.lt_trichotomy n 31 with early | rfl | late
  · have within := factor_le (n + 2)
    rw [factor_of_le (by omega)] at within ⊢
    rw [factor_of_le (by omega)]
    exact (Nat.min_eq_left within).symm
  · decide
  · rw [factor_of_lt (by omega), factor_of_lt (by omega)]
    decide

variable (b : Backoff)

/-- The delay is the product up to the cap, when the cap is a possible delay: a product that is none is
beyond the cap. -/
theorem delayFor_eq_min (possible : b.maxDelay / (1000 * b.ticks) ≤ maxSeconds) (retry : Nat) :
    b.delayFor retry = min (b.baseDelay * factor retry) b.maxDelay := by
  rw [delayFor]
  split
  · rfl
  · rename_i impossible
    have beyond : b.maxDelay < b.baseDelay * factor retry :=
      Nat.lt_of_div_lt_div (Nat.lt_of_le_of_lt possible (Nat.lt_of_not_le impossible))
    exact (Nat.min_eq_right (Nat.le_of_lt beyond)).symm

/-- No delay is beyond the cap. -/
theorem delayFor_le (retry : Nat) : b.delayFor retry ≤ b.maxDelay := by
  rw [delayFor]
  split
  · exact Nat.min_le_right _ _
  · exact Nat.le_refl _

/-- No delay is less than the base. -/
theorem baseDelay_le_delayFor (retry : Nat) : b.baseDelay ≤ b.delayFor retry := by
  rw [delayFor]
  split
  · exact Nat.le_min.2 ⟨Nat.le_mul_of_pos_right _ (factor_pos retry), b.base_le_max⟩
  · exact b.base_le_max

/-- Delays do not decrease. -/
theorem delayFor_mono {retry later : Nat} (after : retry ≤ later) :
    b.delayFor retry ≤ b.delayFor later := by
  have product : b.baseDelay * factor retry ≤ b.baseDelay * factor later :=
    Nat.mul_le_mul_left _ (factor_mono after)
  by_cases possible : b.baseDelay * factor later / (1000 * b.ticks) ≤ maxSeconds
  · have before := Nat.le_trans (Nat.div_le_div_right product) possible
    rw [delayFor, delayFor]
    simp only [if_pos possible, if_pos before]
    exact Nat.le_min.2 ⟨Nat.le_trans (Nat.min_le_left _ _) product, Nat.min_le_right _ _⟩
  · -- Only the later product may be beyond all delays; then that delay is the cap.
    have capped : b.delayFor later = b.maxDelay := if_neg possible
    rw [capped]
    exact b.delayFor_le retry

/-- Counted in finer ticks, a delay is so many times as many. -/
theorem delayFor_finer {fine : Backoff} {k : Nat} (finer : 0 < k)
    (base : fine.baseDelay = k * b.baseDelay) (cap : fine.maxDelay = k * b.maxDelay)
    (ticks : fine.ticks = k * b.ticks) (retry : Nat) :
    fine.delayFor retry = k * b.delayFor retry := by
  have seconds : fine.baseDelay * factor retry / (1000 * fine.ticks) =
      b.baseDelay * factor retry / (1000 * b.ticks) := by
    rw [base, ticks, Nat.mul_assoc, Nat.mul_left_comm 1000 k, Nat.mul_div_mul_left _ _ finer]
  simp only [delayFor, seconds]
  split
  · rw [base, cap, Nat.mul_assoc, Nat.mul_min_mul_left]
  · exact cap

end Backoff

/-! ### Delays in machine words -/

/-- Doubling gives the factors of backoff. -/
theorem Word.toNat_power (n : Nat) : (power n).toNat = Backoff.factor (n + 1) := by
  induction n with
  | zero => rfl
  | succ n ih => rw [power, toNat_double, ih, Backoff.factor_add_two, Backoff.maxFactor]

namespace Span

/-- The delay before a retry in words: the base as often as the power of two says, no longer than a cap
that is raised to the base. A product that is no span is the cap. -/
def delay (base requested : Span) (retry : UInt32) : Span :=
  let cap := requested.longer base
  ((base.times? (Word.power (retry.toNat - 1))).getD cap).shorter cap

/-- The delay is the product up to the cap in words, too. -/
theorem nanoseconds_delay (base requested : Span) (retry : UInt32) :
    (base.delay requested retry).nanoseconds =
      min (base.nanoseconds * Backoff.factor retry.toNat)
        (max requested.nanoseconds base.nanoseconds) := by
  have factor : (Word.power (retry.toNat - 1)).toNat = Backoff.factor retry.toNat := by
    rw [Word.toNat_power]
    rfl
  rw [delay, nanoseconds_shorter, nanoseconds_longer]
  rcases times?_cases base (Word.power (retry.toNat - 1)) with ⟨t, product, exact⟩ | ⟨none, beyond⟩
  · rw [product, Option.getD_some, exact, factor]
  · -- The product is beyond all spans, and the cap is one.
    have cap := nanoseconds_lt (requested.longer base)
    rw [nanoseconds_longer] at cap
    rw [factor] at beyond
    rw [none, Option.getD_none, nanoseconds_longer, Nat.min_self]
    exact (Nat.min_eq_right (Nat.le_of_lt (Nat.lt_of_lt_of_le cap beyond))).symm

end Span

namespace Backoff

/-- Backoff with delays to the nanosecond. -/
def ofSpans (maxRetries : Nat) (base requested : Span) : Backoff :=
  { of maxRetries base.nanoseconds requested.nanoseconds with ticks := 1000000 }

/-- Backoff between any two spans, before any retry that a word can number. The delay is what words
give, so it does not overflow. It lies between the base and the cap, which is raised to the base, does
not decrease from retry to retry, and stays at the cap. It is the base doubled with each retry, up to
the cap, in exact arithmetic; from the 33rd retry on the factor is the greatest word. Backoff between
the same spans in whole milliseconds has the same delays. -/
theorem delayFor_exact (maxRetries : Nat) (base requested : Span) (retry : UInt32) :
    let b := ofSpans maxRetries base requested
    let cap := max requested.nanoseconds base.nanoseconds
    b.delayFor retry.toNat = (base.delay requested retry).nanoseconds ∧
    base.nanoseconds ≤ b.delayFor retry.toNat ∧ b.delayFor retry.toNat ≤ cap ∧
    (∀ later, retry ≤ later → b.delayFor retry.toNat ≤ b.delayFor later.toNat) ∧
    (∀ later, retry ≤ later → b.delayFor retry.toNat = cap → b.delayFor later.toNat = cap) ∧
    (retry.toNat ≤ 32 →
      b.delayFor retry.toNat = min (base.nanoseconds * Nat.pow 2 (retry.toNat - 1)) cap) ∧
    (32 < retry.toNat → b.delayFor retry.toNat = min (base.nanoseconds * maxFactor) cap) ∧
    (∀ baseMillis requestedMillis, base.nanoseconds = 1000000 * baseMillis →
      requested.nanoseconds = 1000000 * requestedMillis →
      b.delayFor retry.toNat =
        1000000 * (of maxRetries baseMillis requestedMillis).delayFor retry.toNat) := by
  intro b cap
  have word : cap < UInt64.size * 1000000000 := by
    have longer := Span.nanoseconds_lt (requested.longer base)
    rwa [Span.nanoseconds_longer] at longer
  have possible : cap / (1000 * 1000000) ≤ maxSeconds := by
    have size : UInt64.size = maxSeconds + 1 := rfl
    omega
  have product (r : Nat) : b.delayFor r = min (base.nanoseconds * factor r) cap :=
    b.delayFor_eq_min possible r
  have bounds : base.nanoseconds ≤ b.delayFor retry.toNat ∧ b.delayFor retry.toNat ≤ cap :=
    ⟨b.baseDelay_le_delayFor _, b.delayFor_le _⟩
  refine ⟨?_, bounds.1, bounds.2, fun later after => b.delayFor_mono after,
    fun later after capped => ?_, fun early => ?_, fun late => ?_,
    fun baseMillis requestedMillis inBase inRequested => ?_⟩
  · rw [Span.nanoseconds_delay, product]
  · exact Nat.le_antisymm (b.delayFor_le _) (capped ▸ b.delayFor_mono after)
  · rw [product, factor_of_le early]
  · rw [product, factor_of_lt late]
  · have inCap : cap = 1000000 * max requestedMillis baseMillis := by
      rw [← Nat.mul_max_mul_left, ← inRequested, ← inBase]
    exact delayFor_finer _ (by decide) inBase inCap rfl _

/-- A base of 50 milliseconds doubles until it comes to a cap of 300, where it stays. The longest span
is not doubled, since that would be beyond all spans. -/
theorem delayFor_exact_fiftyMillis :
    let base : Span := ⟨0, 50000000, by decide⟩
    let requested : Span := ⟨0, 300000000, by decide⟩
    let longest : Span := ⟨18446744073709551615, 999999999, by decide⟩
    let b := ofSpans 10 base requested
    b.delayFor 3 = 200000000 ∧ b.delayFor 4 = 300000000 ∧ b.delayFor 40 = 300000000 ∧
      b.delayFor 3 = 1000000 * (of 10 50 300).delayFor 3 ∧
      (ofSpans 10 longest requested).delayFor 2 = longest.nanoseconds := by
  intro base requested longest b
  obtain ⟨-, -, -, -, -, third, -, millis⟩ := delayFor_exact 10 base requested 3
  obtain ⟨-, -, -, -, stays, fourth, -⟩ := delayFor_exact 10 base requested 4
  obtain ⟨-, -, -, -, -, second, -⟩ := delayFor_exact 10 longest requested 2
  have cap : max requested.nanoseconds base.nanoseconds = 300000000 := by decide
  rw [cap] at stays third fourth
  have capped : b.delayFor 4 = 300000000 := (fourth (by decide)).trans (by decide)
  exact ⟨(third (by decide)).trans (by decide), capped, stays 40 (by decide) capped,
    millis 50 300 (by decide) (by decide), (second (by decide)).trans (by decide)⟩

end Backoff

end Keyscan
