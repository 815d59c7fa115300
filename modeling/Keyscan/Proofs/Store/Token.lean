import Keyscan.Proofs.Number.Integers
import Keyscan.Proofs.Text.UrlSafeBase64
import Keyscan.Store.Token

/-!
Continuation tokens read back: a token issued for a table at an offset is accepted for that table and
gives the offset again, whatever the name of the table holds. Offsets are machine words.

Nothing else is accepted. A text is taken apart into a table and what stands for the offset exactly when
it is the base64 of the two with a newline in between (`parts?_eq_some_iff`); it is accepted when the
table is the one asked for and the rest is a number (`decode_ok_iff`), and refused for good otherwise.
-/

set_option autoImplicit false

namespace Keyscan.StoreToken

/-- The digits of an offset hold no newline, so the last newline is the one in front of them. -/
theorem splitLastNewline?_eq (table : List Char) {offset : List Char} (plain : '\n' ∉ offset) :
    splitLastNewline? (table ++ '\n' :: offset) = some (table, offset) := by
  have behind : splitLastNewline? offset = none := by
    induction offset with
    | nil => rfl
    | cons c rest ih =>
        rw [List.mem_cons, not_or] at plain
        simp [splitLastNewline?, ih plain.2, Ne.symm plain.1]
  induction table with
  | nil => simp [splitLastNewline?, behind]
  | cons c rest ih => simp [splitLastNewline?, ih]

/-- A token has the parts that it was made from. -/
theorem parts?_encode (table : String) (offset : Nat) :
    parts? (encode table offset) = some (table, Nat.toDigits 10 offset) := by
  have plain : '\n' ∉ Nat.toDigits 10 offset := by
    intro mem
    exact absurd (Nat.isDigit_of_mem_toDigits (by decide) (by decide) mem) (by decide)
  simp [parts?, encode, splitLastNewline?_eq table.toList plain]

/-- The token of a table at an offset is read as the offset. -/
theorem decode_encode (table : String) {offset : Nat} (word : offset < Nat.pow 2 64) :
    decode (encode table offset) table = .ok offset := by
  simp [decode, parts?_encode, readNatural_toDigits word]

/-! ### Texts that are accepted -/

/-- The base64 of a table and a text, with a newline in between. -/
def join (table text : String) : String :=
  Text.Base64.encodeUrlSafe (Text.utf8Bytes (table ++ "\n" ++ text))

/-- Only a text without newlines is left whole. -/
theorem not_mem_of_splitLastNewline?_eq_none {cs : List Char} (whole : splitLastNewline? cs = none) :
    '\n' ∉ cs := by
  induction cs with
  | nil => exact List.not_mem_nil
  | cons c rest ih =>
      rw [splitLastNewline?] at whole
      cases behind : splitLastNewline? rest with
      | some parts =>
          rw [behind] at whole
          cases whole
      | none =>
          simp only [behind] at whole
          split at whole
          · cases whole
          · rename_i other
            exact List.not_mem_cons_of_ne_of_not_mem (Ne.symm other) (ih behind)

/-- A text is divided at a newline with none behind it. -/
theorem splitLastNewline?_eq_some_iff {cs front behind : List Char} :
    splitLastNewline? cs = some (front, behind) ↔
      cs = front ++ '\n' :: behind ∧ '\n' ∉ behind := by
  constructor
  · intro divided
    induction cs generalizing front with
    | nil => cases divided
    | cons c rest ih =>
        rw [splitLastNewline?] at divided
        cases later : splitLastNewline? rest with
        | some parts =>
            simp only [later] at divided
            cases divided
            obtain ⟨same, plain⟩ := ih later
            exact ⟨congrArg (c :: ·) same, plain⟩
        | none =>
            simp only [later] at divided
            split at divided
            · rename_i newline
              subst newline
              cases divided
              exact ⟨rfl, not_mem_of_splitLastNewline?_eq_none later⟩
            · cases divided
  · rintro ⟨rfl, plain⟩
    exact splitLastNewline?_eq front plain

/-- A token has the parts that it is joined from. -/
theorem parts?_eq_some_iff {token table : String} {number : List Char} :
    parts? token = some (table, number) ↔
      token = join table (String.ofList number) ∧ '\n' ∉ number := by
  have joined : (table ++ "\n" ++ String.ofList number).toList =
      table.toList ++ '\n' :: number := by
    simp
  constructor
  · -- The three readings one after the other, each of which has one text to read.
    intro parts
    obtain ⟨bytes, spelled, parts⟩ := Option.bind_eq_some_iff.1 parts
    obtain ⟨text, read, parts⟩ := Option.bind_eq_some_iff.1 parts
    obtain ⟨⟨front, behind⟩, divided, given⟩ := Option.bind_eq_some_iff.1 parts
    cases given
    obtain ⟨same, plain⟩ := splitLastNewline?_eq_some_iff.1 divided
    rw [Text.Base64.decodeUrlSafe?_eq_some_iff.1 spelled, Text.ofUtf8Bytes?_eq_some_iff.1 read, join]
    rw [String.toList_ofList, ← same] at joined
    rw [String.toList_inj.1 joined]
    exact ⟨rfl, plain⟩
  · rintro ⟨rfl, plain⟩
    have divided := splitLastNewline?_eq table.toList plain
    rw [← joined] at divided
    rw [parts?, join, Text.Base64.decodeUrlSafe?_encodeUrlSafe]
    simp only [bind, Option.bind, Text.ofUtf8Bytes?_utf8Bytes, divided, String.ofList_toList]

/-- A number holds no newline. -/
theorem not_mem_of_integerText {cs : List Char} {n : Int} (text : IntegerText false cs n) :
    '\n' ∉ cs := by
  have digit {digits : List Char} (all : ∀ c ∈ digits, c.isDigit = true) : '\n' ∉ digits :=
    fun mem => absurd (all _ mem) (by decide)
  cases text with
  | plain _ all => exact digit all
  | plus _ all => exact List.not_mem_cons_of_ne_of_not_mem (by decide) (digit all)
  | minus negative _ _ => cases negative

section Decode

variable {token table : String}

/-- A token of another table is named as that. -/
theorem decode_foreign {other : String} {number : List Char}
    (parts : parts? token = some (other, number)) (foreign : other ≠ table) :
    decode token table = .error
      (.fatal s!"continuation token for table '{other}' used against table '{table}'") := by
  simp [decode, parts, foreign]

/-- A token has parts of its table with a number, or parts of another table, or is refused as none. -/
theorem decode_cases (token table : String) :
    (∃ number offset, parts? token = some (table, number) ∧ readNatural 64 number = .ok offset ∧
      decode token table = .ok offset) ∨
    (∃ other number, parts? token = some (other, number) ∧ other ≠ table ∧
      decode token table = .error
        (.fatal s!"continuation token for table '{other}' used against table '{table}'")) ∨
    decode token table = .error (.fatal s!"invalid continuation token '{token}'") := by
  cases parts : parts? token with
  | none =>
      refine .inr (.inr ?_)
      rw [decode, parts]
  | some found =>
      obtain ⟨other, number⟩ := found
      by_cases own : other = table
      · subst own
        cases read : readNatural 64 number with
        | ok offset =>
            refine .inl ⟨number, offset, rfl, read, ?_⟩
            simp [decode, parts, read]
        | error fault =>
            refine .inr (.inr ?_)
            simp [decode, parts, read]
      · exact .inr (.inl ⟨other, number, rfl, own, decode_foreign parts own⟩)

/-- A token is accepted when it is joined from the table and a number. -/
theorem decode_ok_iff {offset : Nat} :
    decode token table = .ok offset ↔
      ∃ number, token = join table number ∧ IntegerText false number.toList offset ∧
        offset < Nat.pow 2 64 := by
  constructor
  · intro accepted
    rcases decode_cases token table with ⟨number, n, own, read, given⟩ | ⟨_, _, -, -, given⟩ | given
    · rw [given] at accepted
      cases accepted
      refine ⟨String.ofList number, (parts?_eq_some_iff.1 own).1, ?_⟩
      rw [String.toList_ofList]
      exact readNatural_ok_iff.1 read
    · rw [given] at accepted
      cases accepted
    · rw [given] at accepted
      cases accepted
  · rintro ⟨number, joined, text, word⟩
    have own : parts? token = some (table, number.toList) :=
      parts?_eq_some_iff.2 ⟨by rwa [String.ofList_toList], not_mem_of_integerText text⟩
    simp [decode, own, readNatural_ok_iff.2 ⟨text, word⟩]

/-- A token is refused for good: it is one of another table, or none at all. -/
theorem eq_of_decode_error {e : StoreError} (refused : decode token table = .error e) :
    e = .fatal s!"invalid continuation token '{token}'" ∨
      ∃ other number, other ≠ table ∧ '\n' ∉ number.toList ∧ token = join other number ∧
        e = .fatal s!"continuation token for table '{other}' used against table '{table}'" := by
  rcases decode_cases token table with ⟨_, _, -, -, given⟩ | ⟨other, number, parts, foreign, given⟩ |
    given
  · rw [given] at refused
    cases refused
  · rw [given] at refused
    cases refused
    obtain ⟨joined, plain⟩ := parts?_eq_some_iff.1 parts
    exact .inr ⟨other, String.ofList number, foreign, by rwa [String.toList_ofList], joined, rfl⟩
  · rw [given] at refused
    cases refused
    exact .inl rfl

end Decode

/-- Tokens of a table, whatever its name holds. The token for an offset is read as the offset for the
table, and is refused for good for every other. A text is accepted exactly when it is the base64 of the
table, a newline, and digits behind a plus sign or none that denote the offset, a machine word. Every
other text is refused for good, as a token of another table only when it is joined from that one. -/
theorem accepted_iff_joined (table : String) :
    (∀ offset < Nat.pow 2 64, decode (encode table offset) table = .ok offset) ∧
    (∀ other, other ≠ table → ∀ offset, decode (encode table offset) other = .error
      (.fatal s!"continuation token for table '{table}' used against table '{other}'")) ∧
    (∀ token offset, decode token table = .ok offset ↔
      ∃ number, token = join table number ∧ IntegerText false number.toList offset ∧
        offset < Nat.pow 2 64) ∧
    (∀ token e, decode token table = .error e →
      e = .fatal s!"invalid continuation token '{token}'" ∨
        ∃ other number, other ≠ table ∧ '\n' ∉ number.toList ∧ token = join other number ∧
          e = .fatal s!"continuation token for table '{other}' used against table '{table}'") := by
  refine ⟨fun offset => decode_encode table, fun other foreign offset => ?_,
    fun token offset => decode_ok_iff, fun token e => eq_of_decode_error⟩
  exact decode_foreign (parts?_encode table offset) foreign.symm

/-- The greatest offset, for a table whose name reads like a token of the table `a`, and a number with a
plus sign and zeros. -/
theorem accepted_iff_joined_digits :
    let table := "a\n7"
    let last := Nat.pow 2 64 - 1
    decode (encode table last) table = .ok last ∧
      decode (encode table last) "a" = .error
        (.fatal s!"continuation token for table '{table}' used against table 'a'") ∧
      decode (join table "+007") table = .ok 7 := by
  intro table last
  obtain ⟨own, foreign, accepted, -⟩ := accepted_iff_joined table
  have digits : ∀ c ∈ "007".toList, c.isDigit = true := List.all_eq_true.1 rfl
  exact ⟨own last (by decide), foreign "a" (by decide) last,
    (accepted _ 7).2 ⟨"+007", rfl, .plus (by decide) digits, by decide⟩⟩

end Keyscan.StoreToken
