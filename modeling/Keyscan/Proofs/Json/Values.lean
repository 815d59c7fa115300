import Keyscan.Proofs.Json.Texts
import Keyscan.Proofs.Number.Digits

/-!
JSON values read back from their compact text. A value whose numbers are integers of 64 bits is read
as itself when its nesting is allowed, and not read at all otherwise (`readValue_printChars`). Behind
the value may stand whatever does not go on with a number.

Steps of the readers of items and members come first; the value, its items and its members are then
read by one induction on the value. `readItems` and `readMembers` get more fuel than they need, since
every item and every member takes a character at least.
-/

set_option autoImplicit false

namespace Keyscan.Json

mutual

/-- Every number is an integer of 64 bits, signed or not. Text keeps it exactly. -/
def Exact : Json → Prop
  | .number n => ∃ i : Int, n = .integer i ∧ -9223372036854775808 ≤ i ∧ i < wordLimit
  | .array items => ExactItems items
  | .object members => ExactMembers members
  | _ => True

/-- Every item is exact. -/
def ExactItems : List Json → Prop
  | [] => True
  | x :: rest => Exact x ∧ ExactItems rest

/-- The value of every member is exact. -/
def ExactMembers : List (String × Json) → Prop
  | [] => True
  | (_, x) :: rest => Exact x ∧ ExactMembers rest

end

/-! ### Integers -/

/-- A text whose first character, if any, does not go on with a number. -/
def EndsNumber (rest : List Char) : Prop :=
  ∀ c ∈ rest.head?, c.isDigit = false ∧ c ≠ '.' ∧ c ≠ 'e' ∧ c ≠ 'E'

theorem endsNumber_nil : EndsNumber [] := nofun

theorem endsNumber_cons {c : Char} (mark : c = ',' ∨ c = ']' ∨ c = '\x7d') (rest : List Char) :
    EndsNumber (c :: rest) := by
  rintro d ⟨⟩
  rcases mark with rfl | rfl | rfl <;> decide

/-- The digits of a natural number are read up to the end of the number. -/
theorem readUnsigned?_toDigits (negative : Bool) (n : Nat) {rest : List Char}
    (ends : EndsNumber rest) :
    readUnsigned? negative (Nat.toDigits 10 n ++ rest) =
      (integer? negative (Nat.toDigits 10 n)).map (·, rest) := by
  have digits : ∀ c ∈ Nat.toDigits 10 n, c.isDigit = true :=
    fun c mem => Nat.isDigit_of_mem_toDigits (by decide) (by decide) mem
  obtain ⟨taken, dropped⟩ := span_digits digits fun c mem => (ends c mem).1
  have proper : ¬ ((Nat.toDigits 10 n).isEmpty ∨
      ((Nat.toDigits 10 n).head? = some '0' ∧ (Nat.toDigits 10 n).length ≠ 1)) := by
    rintro (empty | ⟨zero, long⟩)
    · exact Nat.toDigits_ne_nil (List.isEmpty_iff.1 empty)
    · rw [eq_zero_of_head?_toDigits zero] at long
      exact long rfl
  have fraction : readFraction? rest = some (none, rest) := by
    cases rest with
    | nil => rfl
    | cons c more =>
        have point := (ends c rfl).2.1
        simp [readFraction?, point]
  have exponent : readExponentPart? rest = some (none, rest) := by
    cases rest with
    | nil => rfl
    | cons c more =>
        have mark := (ends c rfl).2.2
        simp [readExponentPart?, mark]
  simp only [readUnsigned?, taken, dropped, if_neg proper, fraction, exponent, bind, Option.bind]

/-- The text of an integer begins with a minus sign or a digit. -/
theorem printInteger_begins (n : Int) :
    ∃ c body, printInteger n = c :: body ∧ (c = '-' ∨ c.isDigit = true) := by
  by_cases negative : n < 0
  · exact ⟨'-', _, if_pos negative, .inl rfl⟩
  · obtain ⟨c, body, begins⟩ := List.exists_cons_of_ne_nil
      (Nat.toDigits_ne_nil : Nat.toDigits 10 n.natAbs ≠ [])
    have digit : c.isDigit = true :=
      Nat.isDigit_of_mem_toDigits (by decide) (by decide) (begins ▸ List.mem_cons_self)
    exact ⟨c, body, by rw [printInteger, if_neg negative, begins], .inr digit⟩

/-- An integer of 64 bits is read back from its text. -/
theorem readNumber?_printInteger {n : Int} (least : -9223372036854775808 ≤ n) (most : n < wordLimit)
    {rest : List Char} (ends : EndsNumber rest) :
    readNumber? (printInteger n ++ rest) = some (.integer n, rest) := by
  by_cases negative : n < 0
  · have kept : integer? true (Nat.toDigits 10 n.natAbs) = some (.integer n) := by
      rw [integer?, digitsValue_toDigits, if_neg (by simp), if_pos ⟨rfl, by omega, by omega⟩,
        show -(n.natAbs : Int) = n by omega]
    rw [printInteger, if_pos negative, List.cons_append, readNumber?,
      readUnsigned?_toDigits true _ ends, kept]
    rfl
  · have kept : integer? false (Nat.toDigits 10 n.natAbs) = some (.integer n) := by
      rw [integer?, digitsValue_toDigits, if_pos ⟨rfl, by omega⟩,
        show (n.natAbs : Int) = n by omega]
    have unsigned : readNumber? (Nat.toDigits 10 n.natAbs ++ rest) =
        readUnsigned? false (Nat.toDigits 10 n.natAbs ++ rest) := by
      rw [readNumber?]
      intro behind minus
      have sign : '-' ∈ Nat.toDigits 10 n.natAbs := by
        cases digits : Nat.toDigits 10 n.natAbs with
        | nil => exact absurd digits Nat.toDigits_ne_nil
        | cons d more =>
            rw [digits] at minus
            cases minus
            exact List.mem_cons_self
      exact absurd (Nat.isDigit_of_mem_toDigits (by decide) (by decide) sign) (by decide)
    rw [printInteger, if_neg negative, unsigned, readUnsigned?_toDigits false _ ends, kept]
    rfl

/-! ### Values of one piece -/

/-- Whatever begins with neither bracket is read as a scalar, at any nesting. -/
theorem readValue_scalar (depth : Nat) {c : Char} (array : c ≠ '[') (object : c ≠ '\x7b')
    (cs : List Char) : readValue depth (c :: cs) = readScalar (c :: cs) := by
  cases depth <;> rw [readValue]
  all_goals
    rintro rest ⟨⟩
    contradiction

/-- An integer of 64 bits is read back as a value. -/
theorem readValue_printInteger (depth : Nat) {n : Int} (least : -9223372036854775808 ≤ n)
    (most : n < wordLimit) {rest : List Char} (ends : EndsNumber rest) :
    readValue depth (printInteger n ++ rest) = some (.number (.integer n), rest) := by
  have read := readNumber?_printInteger least most ends
  obtain ⟨c, body, begins, first⟩ := printInteger_begins n
  have plain : c ≠ '[' ∧ c ≠ '\x7b' ∧ c ≠ '"' ∧ c ≠ 'n' ∧ c ≠ 't' ∧ c ≠ 'f' := by
    refine ⟨?_, ?_, ?_, ?_, ?_, ?_⟩ <;>
      (rintro rfl; rcases first with sign | digit <;> contradiction)
  rw [begins, List.cons_append] at read ⊢
  rw [readValue_scalar depth plain.1 plain.2.1, readScalar, read]
  · rfl
  all_goals
    rintro rest' ⟨⟩
    simp at plain

/-- The text of an exact value begins with neither a blank nor a closing bracket. -/
theorem printChars_begins {j : Json} (exact : j.Exact) :
    ∃ c body, printChars j = c :: body ∧ isBlankChar c = false ∧ c ≠ ']' := by
  cases j with
  | null => exact ⟨'n', _, rfl, rfl, by decide⟩
  | bool b => cases b <;> exact ⟨_, _, rfl, rfl, by decide⟩
  | string s => exact ⟨'"', _, rfl, rfl, by decide⟩
  | array items => exact ⟨'[', _, rfl, rfl, by decide⟩
  | object members => exact ⟨'\x7b', _, rfl, rfl, by decide⟩
  | number n =>
      obtain ⟨i, rfl, -, -⟩ := exact
      obtain ⟨c, body, begins, first⟩ := printInteger_begins i
      refine ⟨c, body, begins, ?_, ?_⟩
      · rcases first with rfl | digit
        · rfl
        · rw [Bool.eq_false_iff]
          intro blank
          simp only [isBlankChar, Bool.or_eq_true, beq_iff_eq] at blank
          rcases blank with ((rfl | rfl) | rfl) | rfl <;> contradiction
      · rintro rfl
        rcases first with sign | digit <;> contradiction

/-- No blanks stand in front of an exact value. -/
theorem skipBlanks_printChars {j : Json} (exact : j.Exact) (rest : List Char) :
    skipBlanks (printChars j ++ rest) = printChars j ++ rest := by
  obtain ⟨c, body, begins, dark, -⟩ := printChars_begins exact
  rw [begins, skipBlanks, List.cons_append, List.dropWhile_cons_of_neg (by simp [dark])]

/-! ### Items and members, one at a time -/

section Steps

variable {value : List Char → Option (Json × List Char)} {fuel : Nat} {cs rest : List Char} {x : Json}

/-- An item that is not read ends the reading. -/
theorem readItems_none (unread : value (skipBlanks cs) = none) :
    readItems value (fuel + 1) cs = none := by
  rw [readItems, unread]
  rfl

/-- An item with a comma behind it is followed by others. -/
theorem readItems_comma (read : value (skipBlanks cs) = some (x, ',' :: rest)) :
    readItems value (fuel + 1) cs = (readItems value fuel rest).map fun r => (x :: r.1, r.2) := by
  rw [readItems, read]
  rfl

/-- An item with a bracket behind it is the last. -/
theorem readItems_bracket (read : value (skipBlanks cs) = some (x, ']' :: rest)) :
    readItems value (fuel + 1) cs = some ([x], rest) := by
  rw [readItems, read]
  rfl

/-- A printed key is read up to the value of the member. -/
theorem readMembers_key (key : String) :
    readMembers value (fuel + 1) (printString key ++ ':' :: cs) =
      (value (skipBlanks cs)).bind fun r =>
        match skipBlanks r.2 with
        | ',' :: rest => (readMembers value fuel rest).map fun more => ((key, r.1) :: more.1, more.2)
        | '\x7d' :: rest => some ([(key, r.1)], rest)
        | _ => none := by
  obtain ⟨body, printed, read⟩ := readString_printString key (':' :: cs)
  have quote : skipBlanks ('"' :: body) = '"' :: body := rfl
  rw [printed, readMembers, quote]
  change (readString body).bind _ = _
  rw [read]
  rfl

/-- A member whose value is not read ends the reading. -/
theorem readMembers_none (key : String) (unread : value (skipBlanks cs) = none) :
    readMembers value (fuel + 1) (printString key ++ ':' :: cs) = none := by
  rw [readMembers_key, unread]
  rfl

/-- A member with a comma behind it is followed by others. -/
theorem readMembers_comma (key : String) (read : value (skipBlanks cs) = some (x, ',' :: rest)) :
    readMembers value (fuel + 1) (printString key ++ ':' :: cs) =
      (readMembers value fuel rest).map fun r => ((key, x) :: r.1, r.2) := by
  rw [readMembers_key, read]
  rfl

/-- A member with a brace behind it is the last. -/
theorem readMembers_brace (key : String) (read : value (skipBlanks cs) = some (x, '\x7d' :: rest)) :
    readMembers value (fuel + 1) (printString key ++ ':' :: cs) = some ([(key, x)], rest) := by
  rw [readMembers_key, read]
  rfl

end Steps

/-- Every item takes a character at least. -/
theorem length_le_printItems {items : List Json} (exact : ExactItems items) :
    items.length ≤ (printItems items).length := by
  induction items with
  | nil => exact Nat.le_refl 0
  | cons x items ih =>
      obtain ⟨own, others⟩ := exact
      obtain ⟨c, body, begins, -⟩ := printChars_begins own
      have more := ih others
      cases items with
      | nil => simp [printItems, begins]
      | cons y items =>
          rw [printItems, begins]
          simp only [List.length_append, List.length_cons] at more ⊢
          omega

/-- Every member takes a character at least. -/
theorem length_le_printMembers (members : List (String × Json)) :
    members.length ≤ (printMembers members).length := by
  induction members with
  | nil => exact Nat.le_refl 0
  | cons p members ih =>
      cases members with
      | nil =>
          simp only [printMembers, List.length_append, List.length_cons, List.length_nil]
          omega
      | cons q members =>
          rw [printMembers]
          simp only [List.length_append, List.length_cons] at ih ⊢
          omega

/-- Behind an opening bracket the items of an array are read. -/
theorem readValue_array (depth : Nat) {items : List Json} (exact : ExactItems items)
    (some_item : items ≠ []) (rest : List Char) :
    ∃ fuel, items.length ≤ fuel ∧
      readValue (depth + 1) (printChars (.array items) ++ rest) =
        (readItems (readValue depth) fuel (printItems items ++ ']' :: rest)).map fun r =>
          (.array r.1, r.2) := by
  have enough : items.length ≤ (printItems items ++ ']' :: rest).length := by
    have short := length_le_printItems exact
    rw [List.length_append]
    omega
  refine ⟨_, enough, ?_⟩
  obtain ⟨c, body, begins, dark, item⟩ :
      ∃ c body, printItems items = c :: body ∧ isBlankChar c = false ∧ c ≠ ']' := by
    cases items with
    | nil => exact absurd rfl some_item
    | cons x items =>
        obtain ⟨c, body, begins, dark, item⟩ := printChars_begins exact.1
        cases items with
        | nil => exact ⟨c, body, begins, dark, item⟩
        | cons y items => exact ⟨c, _, by rw [printItems, begins]; rfl, dark, item⟩
  have skipped : skipBlanks (c :: (body ++ ']' :: rest)) = c :: (body ++ ']' :: rest) :=
    List.dropWhile_cons_of_neg (by simp [dark])
  rw [printChars, List.cons_append, List.append_assoc, begins, List.cons_append, readValue]
  simp only [List.cons_append, List.nil_append, skipped]
  split
  · rename_i closed
    cases closed
    exact absurd rfl item
  · rfl

/-- Behind an opening brace the members of an object are read. -/
theorem readValue_object (depth : Nat) {members : List (String × Json)} (some_member : members ≠ [])
    (rest : List Char) :
    ∃ fuel, members.length ≤ fuel ∧
      readValue (depth + 1) (printChars (.object members) ++ rest) =
        (readMembers (readValue depth) fuel (printMembers members ++ '\x7d' :: rest)).map fun r =>
          (.object r.1, r.2) := by
  have enough : members.length ≤ (printMembers members ++ '\x7d' :: rest).length := by
    have short := length_le_printMembers members
    rw [List.length_append]
    omega
  refine ⟨_, enough, ?_⟩
  obtain ⟨body, begins⟩ : ∃ body, printMembers members = '"' :: body := by
    match members with
    | [] => exact absurd rfl some_member
    | [(key, x)] => exact ⟨_, rfl⟩
    | (key, x) :: p :: members => exact ⟨_, rfl⟩
  rw [printChars, List.cons_append, List.append_assoc, begins]
  rfl

/-! ### Values of any nesting -/

mutual

/-- An exact value is read back from its text when it is not nested deeper than allowed, and
otherwise nothing is read. -/
theorem readValue_printChars : (j : Json) → j.Exact → (depth : Nat) → (rest : List Char) →
    EndsNumber rest →
    readValue depth (printChars j ++ rest) = if j.depth ≤ depth then some (j, rest) else none
  | .null, _, depth, rest, _ =>
      (readValue_scalar depth (by decide) (by decide) _).trans (if_pos (Nat.zero_le depth)).symm
  | .bool true, _, depth, rest, _ =>
      (readValue_scalar depth (by decide) (by decide) _).trans (if_pos (Nat.zero_le depth)).symm
  | .bool false, _, depth, rest, _ =>
      (readValue_scalar depth (by decide) (by decide) _).trans (if_pos (Nat.zero_le depth)).symm
  | .number n, exact, depth, rest, ends => by
      obtain ⟨i, rfl, least, most⟩ := exact
      exact (readValue_printInteger depth least most ends).trans (if_pos (Nat.zero_le depth)).symm
  | .string s, _, depth, rest, _ =>
      (readValue_printString depth s rest).trans (if_pos (Nat.zero_le depth)).symm
  | .array items, _, 0, rest, _ => (if_neg (Nat.not_succ_le_zero (depthItems items))).symm
  | .array [], _, depth + 1, rest, _ => (if_pos (Nat.le_add_left 1 depth)).symm
  | .array (x :: items), exact, depth + 1, rest, _ => by
      have some_item : x :: items ≠ [] := List.cons_ne_nil x items
      obtain ⟨fuel, enough, read⟩ := readValue_array depth exact some_item rest
      rw [read, readItems_printItems (x :: items) exact some_item depth fuel rest enough, Json.depth]
      by_cases within : depthItems (x :: items) ≤ depth
      · rw [if_pos within, if_pos (Nat.succ_le_succ within)]
        rfl
      · rw [if_neg within, if_neg fun nested => within (Nat.le_of_succ_le_succ nested)]
        rfl
  | .object members, _, 0, rest, _ => (if_neg (Nat.not_succ_le_zero (depthMembers members))).symm
  | .object [], _, depth + 1, rest, _ => (if_pos (Nat.le_add_left 1 depth)).symm
  | .object (p :: members), exact, depth + 1, rest, _ => by
      have some_member : p :: members ≠ [] := List.cons_ne_nil p members
      obtain ⟨fuel, enough, read⟩ := readValue_object depth some_member rest
      rw [read, readMembers_printMembers (p :: members) exact some_member depth fuel rest enough,
        Json.depth]
      by_cases within : depthMembers (p :: members) ≤ depth
      · rw [if_pos within, if_pos (Nat.succ_le_succ within)]
        rfl
      · rw [if_neg within, if_neg fun nested => within (Nat.le_of_succ_le_succ nested)]
        rfl

/-- Exact items are read back up to the closing bracket. -/
theorem readItems_printItems : (items : List Json) → ExactItems items → items ≠ [] →
    (depth fuel : Nat) → (rest : List Char) → items.length ≤ fuel →
    readItems (readValue depth) fuel (printItems items ++ ']' :: rest) =
      if depthItems items ≤ depth then some (items, rest) else none
  | [], _, some_item, _, _, _, _ => absurd rfl some_item
  | _ :: _, _, _, _, 0, _, enough => absurd enough (Nat.not_succ_le_zero _)
  | [x], exact, _, depth, fuel + 1, rest, _ => by
      have read := readValue_printChars x exact.1 depth (']' :: rest)
        (endsNumber_cons (.inr (.inl rfl)) rest)
      rw [← skipBlanks_printChars exact.1] at read
      rw [printItems, depthItems, depthItems, Nat.max_zero]
      by_cases within : x.depth ≤ depth
      · rw [if_pos within] at read ⊢
        exact readItems_bracket read
      · rw [if_neg within] at read ⊢
        exact readItems_none read
  | x :: y :: items, exact, _, depth, fuel + 1, rest, enough => by
      have read := readValue_printChars x exact.1 depth
        (',' :: (printItems (y :: items) ++ ']' :: rest)) (endsNumber_cons (.inl rfl) _)
      rw [← skipBlanks_printChars exact.1] at read
      have more := readItems_printItems (y :: items) exact.2 (List.cons_ne_nil y items) depth fuel
        rest (Nat.le_of_succ_le_succ enough)
      rw [printItems, List.append_assoc, List.cons_append, depthItems]
      by_cases within : x.depth ≤ depth
      · rw [if_pos within] at read
        rw [readItems_comma read, more]
        by_cases others : depthItems (y :: items) ≤ depth
        · rw [if_pos others, if_pos (Nat.max_le.2 ⟨within, others⟩)]
          rfl
        · rw [if_neg others, if_neg fun both => others (Nat.max_le.1 both).2]
          rfl
      · rw [if_neg within] at read
        rw [readItems_none read, if_neg fun both => within (Nat.max_le.1 both).1]

/-- Exact members are read back up to the closing brace. -/
theorem readMembers_printMembers : (members : List (String × Json)) → ExactMembers members →
    members ≠ [] → (depth fuel : Nat) → (rest : List Char) → members.length ≤ fuel →
    readMembers (readValue depth) fuel (printMembers members ++ '\x7d' :: rest) =
      if depthMembers members ≤ depth then some (members, rest) else none
  | [], _, some_member, _, _, _, _ => absurd rfl some_member
  | _ :: _, _, _, _, 0, _, enough => absurd enough (Nat.not_succ_le_zero _)
  | [(key, x)], exact, _, depth, fuel + 1, rest, _ => by
      have read := readValue_printChars x exact.1 depth ('\x7d' :: rest)
        (endsNumber_cons (.inr (.inr rfl)) rest)
      rw [← skipBlanks_printChars exact.1] at read
      rw [printMembers, List.append_assoc, List.cons_append, depthMembers, depthMembers,
        Nat.max_zero]
      by_cases within : x.depth ≤ depth
      · rw [if_pos within] at read ⊢
        exact readMembers_brace key read
      · rw [if_neg within] at read ⊢
        exact readMembers_none key read
  | (key, x) :: p :: members, exact, _, depth, fuel + 1, rest, enough => by
      have read := readValue_printChars x exact.1 depth
        (',' :: (printMembers (p :: members) ++ '\x7d' :: rest)) (endsNumber_cons (.inl rfl) _)
      rw [← skipBlanks_printChars exact.1] at read
      have more := readMembers_printMembers (p :: members) exact.2 (List.cons_ne_nil p members)
        depth fuel rest (Nat.le_of_succ_le_succ enough)
      rw [printMembers, List.append_assoc, List.cons_append, List.append_assoc, List.cons_append,
        depthMembers]
      by_cases within : x.depth ≤ depth
      · rw [if_pos within] at read
        rw [readMembers_comma key read, more]
        by_cases others : depthMembers (p :: members) ≤ depth
        · rw [if_pos others, if_pos (Nat.max_le.2 ⟨within, others⟩)]
          rfl
        · rw [if_neg others, if_neg fun both => others (Nat.max_le.1 both).2]
          rfl
      · rw [if_neg within] at read
        rw [readMembers_none key read, if_neg fun both => within (Nat.max_le.1 both).1]

end

/-- The compact text of an exact value is read as the value when it nests no more than the limit, and
is otherwise refused. -/
theorem read?_print {j : Json} (exact : j.Exact) :
    read? j.print = if j.depth ≤ depthLimit then some j else none := by
  have leading := skipBlanks_printChars exact []
  have read := readValue_printChars j exact depthLimit [] endsNumber_nil
  rw [List.append_nil] at leading read
  rw [read?, print, String.toList_ofList, leading]
  by_cases within : j.depth ≤ depthLimit
  · rw [if_pos within] at read ⊢
    rw [read]
    rfl
  · rw [if_neg within] at read ⊢
    rw [read]

end Keyscan.Json
