/-!
Lengths of time in machine words. Words wrap around, so products and sums of them are checked: they are
none when they do not fit. A span is multiplied by a word exactly, or it is not multiplied at all
(`times?_cases`).
-/

set_option autoImplicit false

namespace Keyscan

/-! ### Words -/

namespace Word

/-- The product of two words, if it is one. -/
def mul? (a b : UInt64) : Option UInt64 :=
  if a.toNat * b.toNat < UInt64.size then some (a * b) else none

/-- The sum of two words, if it is one. -/
def add? (a b : UInt64) : Option UInt64 :=
  if a.toNat + b.toNat < UInt64.size then some (a + b) else none

/-- A word doubled, or the greatest word. -/
def double (w : UInt32) : UInt32 :=
  if w.toNat * 2 < UInt32.size then w * 2 else 4294967295

/-- One doubled so many times, up to the greatest word. -/
def power : Nat → UInt32
  | 0 => 1
  | n + 1 => double (power n)

theorem mul?_cases (a b : UInt64) :
    (∃ c, mul? a b = some c ∧ c.toNat = a.toNat * b.toNat) ∨
      (mul? a b = none ∧ UInt64.size ≤ a.toNat * b.toNat) := by
  by_cases fits : a.toNat * b.toNat < UInt64.size
  · exact .inl ⟨a * b, if_pos fits, by rw [UInt64.toNat_mul, Nat.mod_eq_of_lt fits]⟩
  · exact .inr ⟨if_neg fits, Nat.le_of_not_lt fits⟩

theorem add?_cases (a b : UInt64) :
    (∃ c, add? a b = some c ∧ c.toNat = a.toNat + b.toNat) ∨
      (add? a b = none ∧ UInt64.size ≤ a.toNat + b.toNat) := by
  by_cases fits : a.toNat + b.toNat < UInt64.size
  · exact .inl ⟨a + b, if_pos fits, by rw [UInt64.toNat_add, Nat.mod_eq_of_lt fits]⟩
  · exact .inr ⟨if_neg fits, Nat.le_of_not_lt fits⟩

/-- A word is doubled exactly when the double is one. -/
theorem toNat_double (w : UInt32) : (double w).toNat = min (w.toNat * 2) 4294967295 := by
  have size : UInt32.size = 4294967296 := rfl
  rw [double]
  split
  · rename_i fits
    rw [UInt32.toNat_mul, show (2 : UInt32).toNat = 2 from rfl, Nat.mod_eq_of_lt fits]
    omega
  · rw [show (4294967295 : UInt32).toNat = 4294967295 from rfl]
    omega

end Word

/-! ### Spans -/

/-- A length of time: seconds, and the nanoseconds of a second begun. -/
structure Span where
  seconds : UInt64
  nanos : UInt32
  nanos_lt : nanos.toNat < 1000000000

namespace Span

/-- The nanoseconds of a span. -/
def nanoseconds (s : Span) : Nat := s.seconds.toNat * 1000000000 + s.nanos.toNat

/-- A span has a word of seconds at the most. -/
theorem nanoseconds_lt (s : Span) : s.nanoseconds < UInt64.size * 1000000000 := by
  have seconds := s.seconds.toNat_lt_size
  have nanos := s.nanos_lt
  rw [nanoseconds]
  omega

/-! ### Order -/

/-- Whether a span is no longer than another; seconds count first. -/
def le (s t : Span) : Bool :=
  s.seconds < t.seconds || (s.seconds == t.seconds && s.nanos ≤ t.nanos)

/-- The shorter span. -/
def shorter (s t : Span) : Span := if s.le t then s else t

/-- The longer span. -/
def longer (s t : Span) : Span := if s.le t then t else s

theorem le_iff (s t : Span) : s.le t = true ↔ s.nanoseconds ≤ t.nanoseconds := by
  have hs := s.nanos_lt
  have ht := t.nanos_lt
  simp only [le, nanoseconds, Bool.or_eq_true, Bool.and_eq_true, decide_eq_true_eq, beq_iff_eq,
    UInt64.lt_iff_toNat_lt, UInt32.le_iff_toNat_le, ← UInt64.toNat_inj]
  omega

theorem nanoseconds_shorter (s t : Span) :
    (s.shorter t).nanoseconds = min s.nanoseconds t.nanoseconds := by
  by_cases order : s.nanoseconds ≤ t.nanoseconds
  · rw [shorter, if_pos ((le_iff s t).2 order), Nat.min_eq_left order]
  · rw [shorter, if_neg (mt (le_iff s t).1 order), Nat.min_eq_right (Nat.le_of_not_le order)]

theorem nanoseconds_longer (s t : Span) :
    (s.longer t).nanoseconds = max s.nanoseconds t.nanoseconds := by
  by_cases order : s.nanoseconds ≤ t.nanoseconds
  · rw [longer, if_pos ((le_iff s t).2 order), Nat.max_eq_right order]
  · rw [longer, if_neg (mt (le_iff s t).1 order), Nat.max_eq_left (Nat.le_of_not_le order)]

/-! ### Products -/

/-- What is left of whole seconds fits in the smaller word. -/
theorem toNat_rest (nanos : UInt64) :
    (nanos % 1000000000).toUInt32.toNat = nanos.toNat % 1000000000 := by
  have below : nanos.toNat % 1000000000 < 1000000000 := Nat.mod_lt _ (by decide)
  rw [UInt64.toNat_toUInt32, UInt64.toNat_mod]
  exact Nat.mod_eq_of_lt (Nat.lt_trans below (by decide))

theorem rest_lt (nanos : UInt64) : (nanos % 1000000000).toUInt32.toNat < 1000000000 := by
  rw [toNat_rest]
  exact Nat.mod_lt _ (by decide)

/-- The nanoseconds behind the seconds, so many times, in the greater word. -/
def nanosTimes (s : Span) (n : UInt32) : UInt64 := s.nanos.toUInt64 * n.toUInt64

/-- They do not overflow it. -/
theorem toNat_nanosTimes (s : Span) (n : UInt32) :
    (s.nanosTimes n).toNat = s.nanos.toNat * n.toNat := by
  have bound : s.nanos.toNat * n.toNat < 1000000000 * UInt32.size :=
    Nat.mul_lt_mul'' s.nanos_lt n.toNat_lt_size
  rw [nanosTimes, UInt64.toNat_mul, UInt32.toNat_toUInt64, UInt32.toNat_toUInt64]
  exact Nat.mod_eq_of_lt (Nat.lt_trans bound (by decide))

/-- So many times the span, if its seconds are a word. -/
def times? (s : Span) (n : UInt32) : Option Span := do
  let whole ← Word.mul? s.seconds n.toUInt64
  let seconds ← Word.add? whole (s.nanosTimes n / 1000000000)
  some ⟨seconds, (s.nanosTimes n % 1000000000).toUInt32, rest_lt _⟩

/-- A product of a span is exact when it is a span, and none when it has more seconds than a word. -/
theorem times?_cases (s : Span) (n : UInt32) :
    (∃ t, s.times? n = some t ∧ t.nanoseconds = s.nanoseconds * n.toNat) ∨
      (s.times? n = none ∧ UInt64.size * 1000000000 ≤ s.nanoseconds * n.toNat) := by
  have parts : s.nanoseconds * n.toNat =
      s.seconds.toNat * n.toNat * 1000000000 + s.nanos.toNat * n.toNat := by
    rw [nanoseconds, Nat.add_mul, Nat.mul_right_comm]
  have carry : (s.nanosTimes n / 1000000000).toNat = s.nanos.toNat * n.toNat / 1000000000 := by
    rw [UInt64.toNat_div, toNat_nanosTimes]
    rfl
  have rest := toNat_rest (s.nanosTimes n)
  have divided := Nat.div_add_mod (s.nanos.toNat * n.toNat) 1000000000
  rw [toNat_nanosTimes] at rest
  rw [parts]
  rcases Word.mul?_cases s.seconds n.toUInt64 with ⟨whole, mul, exact⟩ | ⟨mul, beyond⟩
  · rw [UInt32.toNat_toUInt64] at exact
    rcases Word.add?_cases whole (s.nanosTimes n / 1000000000) with
      ⟨seconds, add, sum⟩ | ⟨add, beyond⟩
    · rw [exact, carry] at sum
      refine .inl ⟨⟨seconds, (s.nanosTimes n % 1000000000).toUInt32, rest_lt _⟩, ?_, ?_⟩
      · simp only [times?, mul, add, bind, Option.bind]
      · rw [nanoseconds, sum, rest]
        omega
    · rw [exact, carry] at beyond
      refine .inr ⟨?_, by omega⟩
      simp only [times?, mul, add, bind, Option.bind]
  · rw [UInt32.toNat_toUInt64] at beyond
    refine .inr ⟨?_, by omega⟩
    simp only [times?, mul, bind, Option.bind]

end Span

end Keyscan
