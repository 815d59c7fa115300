import Mathlib.Tactic.SplitIfs
import Keyscan.Proofs.Json.Values

/-!
The compact text of an exact value as part of a line. It has no control character, so no line break
either, because strings escape theirs and nothing else holds one (`visible_printChars`); and values
with the same text are the same (`print_inj`).
-/

set_option autoImplicit false

namespace Keyscan.Json

/-- None of the characters is a control character below the space. -/
def Visible (cs : List Char) : Prop := ∀ c ∈ cs, 0x20 ≤ c.toNat

instance (cs : List Char) : Decidable (Visible cs) :=
  List.decidableBAll (fun c : Char => 0x20 ≤ c.toNat) cs

theorem visible_append {cs ds : List Char} : Visible (cs ++ ds) ↔ Visible cs ∧ Visible ds :=
  List.forall_mem_append

theorem visible_cons {c : Char} {cs : List Char} :
    Visible (c :: cs) ↔ 0x20 ≤ c.toNat ∧ Visible cs :=
  List.forall_mem_cons

/-- No line break stands among visible characters. -/
theorem Visible.oneLine {cs : List Char} (visible : Visible cs) : '\n' ∉ cs :=
  fun mem => absurd (visible _ mem) (by decide)

/-! ### Strings and integers -/

/-- The digits of a control character are visible. -/
theorem visible_hexDigits {n : Nat} (control : n < 0x20) :
    Visible [hexDigit (n / 16), hexDigit (n % 16)] := by
  have all : ∀ i : Fin 0x20, Visible [hexDigit (i.1 / 16), hexDigit (i.1 % 16)] := by decide
  exact all ⟨n, control⟩

/-- Every character stands inside a string as visible ones. -/
theorem visible_escapeChar (c : Char) : Visible (escapeChar c) := by
  unfold escapeChar
  iterate 7
    split
    · decide
  split
  · rename_i control
    exact visible_append.2
      ⟨(by decide : Visible ['\\', 'u', '0', '0']), visible_hexDigits control⟩
  · rename_i control
    exact visible_cons.2 ⟨Nat.le_of_not_lt control, nofun⟩

theorem visible_printString (s : String) : Visible (printString s) := by
  refine visible_cons.2 ⟨by decide, visible_append.2 ⟨?_, by decide⟩⟩
  intro x mem
  obtain ⟨c, -, mem⟩ := List.mem_flatMap.1 mem
  exact visible_escapeChar c x mem

theorem visible_printInteger (n : Int) : Visible (printInteger n) := by
  have digits : Visible (Nat.toDigits 10 n.natAbs) := by
    intro c mem
    have digit := Nat.isDigit_of_mem_toDigits (by decide) (by decide) mem
    simp only [Char.isDigit, Bool.and_eq_true, decide_eq_true_eq] at digit
    exact Nat.le_trans (by decide) (UInt32.le_iff_toNat_le.1 digit.1)
  unfold printInteger
  split_ifs
  · exact visible_cons.2 ⟨by decide, digits⟩
  · exact digits

/-! ### Values -/

mutual

/-- The text of an exact value is visible. -/
theorem visible_printChars : (j : Json) → j.Exact → Visible (printChars j)
  | .null, _ => by decide
  | .bool true, _ => by decide
  | .bool false, _ => by decide
  | .number n, exact => by
      obtain ⟨i, rfl, -, -⟩ := exact
      exact visible_printInteger i
  | .string s, _ => visible_printString s
  | .array items, exact =>
      visible_cons.2 ⟨by decide, visible_append.2 ⟨visible_printItems items exact, by decide⟩⟩
  | .object members, exact =>
      visible_cons.2 ⟨by decide, visible_append.2 ⟨visible_printMembers members exact, by decide⟩⟩

theorem visible_printItems : (items : List Json) → ExactItems items → Visible (printItems items)
  | [], _ => nofun
  | [x], exact => visible_printChars x exact.1
  | x :: y :: rest, exact =>
      visible_append.2 ⟨visible_printChars x exact.1,
        visible_cons.2 ⟨by decide, visible_printItems (y :: rest) exact.2⟩⟩

theorem visible_printMembers :
    (members : List (String × Json)) → ExactMembers members → Visible (printMembers members)
  | [], _ => nofun
  | [(k, x)], exact =>
      visible_append.2 ⟨visible_printString k,
        visible_cons.2 ⟨by decide, visible_printChars x exact.1⟩⟩
  | (k, x) :: p :: rest, exact =>
      visible_append.2 ⟨visible_printString k,
        visible_cons.2 ⟨by decide, visible_append.2 ⟨visible_printChars x exact.1,
          visible_cons.2 ⟨by decide, visible_printMembers (p :: rest) exact.2⟩⟩⟩⟩

end

/-- Exact values within the limit of nesting are told apart by their texts. -/
theorem print_inj {j k : Json} (exact : j.Exact) (depth : j.depth ≤ depthLimit) (exact' : k.Exact)
    (depth' : k.depth ≤ depthLimit) (same : j.print = k.print) : j = k := by
  have read := read?_print exact
  rw [if_pos depth, same, read?_print exact', if_pos depth'] at read
  exact (Option.some.inj read).symm

end Keyscan.Json
