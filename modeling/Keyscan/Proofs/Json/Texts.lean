import Keyscan.Json.Printer
import Keyscan.Json.Reader

/-!
Texts in JSON read back. Whatever characters a text holds, `readString` reads it from its printed form
and stops at the closing quote, because each character is read back from how it stands inside the
quotes.
-/

set_option autoImplicit false

namespace Keyscan.Json

/-! ### Characters -/

/-- The four digits of a control character are its code unit. -/
theorem codeUnit?_hexDigit {n : Nat} (control : n < 0x20) :
    codeUnit? '0' '0' (hexDigit (n / 16)) (hexDigit (n % 16)) = some n := by
  have all : ∀ i : Fin 0x20,
      codeUnit? '0' '0' (hexDigit (i.1 / 16)) (hexDigit (i.1 % 16)) = some i.1 := by
    decide
  exact all ⟨n, control⟩

/-- A control character without an escape of its own is read back from its digits. -/
theorem readEscape?_control {c : Char} (control : c.toNat < 0x20) (rest : List Char) :
    readEscape? ('u' :: '0' :: '0' :: hexDigit (c.toNat / 16) :: hexDigit (c.toNat % 16) :: rest) =
      some (c, rest) := by
  rw [readEscape?, codeUnit?_hexDigit control]
  simp only [bind, Option.bind]
  rw [if_neg (by omega), if_neg (by omega), Char.ofNat_toNat]

/-- A character behind a backslash is read back with its escape. -/
theorem readStringBody_escape (fuel : Nat) {cs rest : List Char} {c : Char}
    (read : readEscape? cs = some (c, rest)) :
    readStringBody (fuel + 1) ('\\' :: cs) =
      (readStringBody fuel rest).map fun r => (c :: r.1, r.2) := by
  rw [readStringBody, if_neg (by decide), if_pos rfl, read]
  simp only [bind, Option.bind]
  cases readStringBody fuel rest <;> rfl

/-- Every character is read back from how it stands inside a string. -/
theorem readStringBody_escapeChar (fuel : Nat) (c : Char) (rest : List Char) :
    readStringBody (fuel + 1) (escapeChar c ++ rest) =
      (readStringBody fuel rest).map fun r => (c :: r.1, r.2) := by
  rw [escapeChar]
  split
  · subst c
    exact readStringBody_escape fuel rfl
  split
  · subst c
    exact readStringBody_escape fuel rfl
  split
  · subst c
    exact readStringBody_escape fuel rfl
  split
  · subst c
    exact readStringBody_escape fuel rfl
  split
  · subst c
    exact readStringBody_escape fuel rfl
  split
  · subst c
    exact readStringBody_escape fuel rfl
  split
  · subst c
    exact readStringBody_escape fuel rfl
  split
  · rename_i control
    exact readStringBody_escape fuel (readEscape?_control control rest)
  · rename_i quote backslash _ _ _ _ _ control
    change readStringBody (fuel + 1) (c :: rest) = _
    rw [readStringBody, if_neg quote, if_neg backslash, if_neg control]
    cases readStringBody fuel rest <;> rfl

/-! ### Strings -/

/-- The characters of a text are read back up to the closing quote. -/
theorem readStringBody_flatMap {fuel : Nat} {cs : List Char} (rest : List Char)
    (enough : cs.length < fuel) :
    readStringBody fuel (cs.flatMap escapeChar ++ '"' :: rest) = some (cs, rest) := by
  induction cs generalizing fuel with
  | nil =>
      obtain ⟨fuel, rfl⟩ : ∃ n, fuel = n + 1 := ⟨fuel - 1, by simp at enough; omega⟩
      rfl
  | cons c cs ih =>
      obtain ⟨fuel, rfl⟩ : ∃ n, fuel = n + 1 := ⟨fuel - 1, by simp at enough; omega⟩
      rw [List.flatMap_cons, List.append_assoc, readStringBody_escapeChar,
        ih (Nat.lt_of_succ_lt_succ enough)]
      rfl

/-- Every character takes a character at least. -/
theorem length_le_flatMap_escapeChar (cs : List Char) :
    cs.length ≤ (cs.flatMap escapeChar).length := by
  induction cs with
  | nil => exact Nat.le_refl 0
  | cons c cs ih =>
      have one : 1 ≤ (escapeChar c).length := by
        unfold escapeChar
        repeat (first | split | simp)
      rw [List.flatMap_cons, List.length_append, List.length_cons]
      omega

/-- A text is read back from its printed form, whatever stands behind it. -/
theorem readString_printString (s : String) (rest : List Char) :
    ∃ body, printString s ++ rest = '"' :: body ∧ readString body = some (s, rest) := by
  refine ⟨s.toList.flatMap escapeChar ++ '"' :: rest, ?_, ?_⟩
  · rw [printString, List.cons_append, List.append_assoc]
    rfl
  · have enough : s.toList.length < (s.toList.flatMap escapeChar ++ '"' :: rest).length := by
      have short := length_le_flatMap_escapeChar s.toList
      rw [List.length_append, List.length_cons]
      omega
    rw [readString, readStringBody_flatMap rest enough, Option.map_some, String.ofList_toList]

/-- So is a text as a value. -/
theorem readValue_printString (depth : Nat) (s : String) (rest : List Char) :
    readValue depth (printString s ++ rest) = some (.string s, rest) := by
  obtain ⟨body, printed, read⟩ := readString_printString s rest
  rw [printed]
  cases depth <;> rw [readValue, readScalar, read] <;> first | rfl | nofun

end Keyscan.Json
