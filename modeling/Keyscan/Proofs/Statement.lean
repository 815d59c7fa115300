import Keyscan.Statement

/-!
Statements read back. A written name ends at the first quote that is not doubled, so it is read back
in front of any text that does not begin with a quote; the separators never do. A statement with
columns is therefore read as what it was written from, whatever the names hold.
-/

set_option autoImplicit false

namespace Keyscan.Statement

/-- Dropping what a text begins with leaves the rest. -/
@[simp] theorem dropPrefix?_append (start rest : List Char) :
    dropPrefix? start (start ++ rest) = some rest := by
  induction start with
  | nil => rfl
  | cons x xs ih => simp [dropPrefix?, ih]

@[simp] theorem doubleQuotes_nil : doubleQuotes [] = [] := rfl

@[simp] theorem doubleQuotes_quote (cs : List Char) :
    doubleQuotes ('"' :: cs) = '"' :: '"' :: doubleQuotes cs := rfl

/-- All characters but quotes are written once. -/
theorem doubleQuotes_cons {c : Char} (plain : c ≠ '"') (cs : List Char) :
    doubleQuotes (c :: cs) = c :: doubleQuotes cs := by
  simp [doubleQuotes, plain]

/-- The characters of a name are read back up to its closing quote. -/
theorem readNameBody_doubleQuotes (name : List Char) {rest : List Char}
    (ends : rest.head? ≠ some '"') :
    readNameBody (doubleQuotes name ++ '"' :: rest) = some (name, rest) := by
  induction name with
  | nil =>
      cases rest with
      | nil => rfl
      | cons c rest =>
          have notQuote : c ≠ '"' := by simpa using ends
          simp [readNameBody]
  | cons c name ih =>
      by_cases quote : c = '"'
      · subst quote
        simp [readNameBody, ih]
      · rw [doubleQuotes_cons quote, List.cons_append, readNameBody]
        · rw [ih]
          rfl
        all_goals simp [quote]

/-- A quoted name is read back. -/
theorem readName_quoteChars (name : String) (rest : List Char) (ends : rest.head? ≠ some '"') :
    readName (quoteChars name ++ rest) = some (name, rest) := by
  have body := readNameBody_doubleQuotes name.toList ends
  simp [quoteChars, readName, body]

theorem separator_eq : separator = [',', ' '] := by decide

theorem fromClause_eq : fromClause = [' ', 'F', 'R', 'O', 'M', ' '] := by decide

/-- Columns are read back up to the table clause behind them. -/
theorem readColumns_columnChars {columns : List String} {fuel : Nat} (rest : List Char)
    (some_column : columns ≠ []) (enough : columns.length ≤ fuel) :
    readColumns fuel (columnChars columns ++ fromClause ++ rest) = some (columns, rest) := by
  induction columns generalizing fuel with
  | nil => exact absurd rfl some_column
  | cons c columns ih =>
      obtain ⟨fuel, rfl⟩ : ∃ n, fuel = n + 1 := ⟨fuel - 1, by simp at enough; omega⟩
      cases columns with
      | nil =>
          have name := readName_quoteChars c (fromClause ++ rest) (by simp [fromClause_eq])
          have noSeparator : dropPrefix? separator (fromClause ++ rest) = none := by
            simp [separator_eq, fromClause_eq, dropPrefix?]
          rw [columnChars, List.append_assoc, readColumns, name]
          simp only [bind, Option.bind, noSeparator, dropPrefix?_append]
          rfl
      | cons d columns =>
          have name := readName_quoteChars c
            (separator ++ (columnChars (d :: columns) ++ fromClause ++ rest)) (by simp [separator_eq])
          have more := ih (List.cons_ne_nil d columns) (Nat.le_of_succ_le_succ enough)
          have split : columnChars (c :: d :: columns) ++ fromClause ++ rest =
              quoteChars c ++ (separator ++ (columnChars (d :: columns) ++ fromClause ++ rest)) := by
            simp only [columnChars, List.append_assoc]
          rw [split, readColumns, name]
          simp only [bind, Option.bind, dropPrefix?_append, more]
          rfl

/-- Every column takes a character at least. -/
theorem length_le_columnChars (columns : List String) :
    columns.length ≤ (columnChars columns).length := by
  induction columns with
  | nil => simp
  | cons c columns ih =>
      cases columns with
      | nil => simp [columnChars, quoteChars]
      | cons d columns =>
          simp only [columnChars, List.length_append, List.length_cons] at ih ⊢
          have quoted : 1 ≤ (quoteChars c).length := by simp [quoteChars]
          omega

/-- White space is no quote. -/
theorem head?_blank {tail : List Char} (blank : tail.all Text.isBlankChar = true) :
    tail.head? ≠ some '"' := by
  cases tail with
  | nil => simp
  | cons c tail =>
      rw [List.all_cons, Bool.and_eq_true] at blank
      rw [List.head?_cons, Ne, Option.some.injEq]
      rintro rfl
      exact absurd blank.1 (by decide)

/-- A statement with columns is read as what it was written from, with white space behind it or
without. -/
theorem read?_append {s : Select} {tail : List Char} (some_column : s.columns ≠ [])
    (blank : tail.all Text.isBlankChar = true) :
    read? (String.ofList (chars s ++ tail)) = some s := by
  have table := readName_quoteChars s.table tail (head?_blank blank)
  have enough : s.columns.length ≤
      (columnChars s.columns ++ fromClause ++ (quoteChars s.table ++ tail)).length := by
    have short := length_le_columnChars s.columns
    simp only [List.length_append]
    omega
  have columns := readColumns_columnChars (quoteChars s.table ++ tail) some_column enough
  have opened : dropPrefix? opening (String.ofList (chars s ++ tail)).toList =
      some (columnChars s.columns ++ fromClause ++ (quoteChars s.table ++ tail)) := by
    rw [String.toList_ofList, chars]
    simp only [List.append_assoc, dropPrefix?_append]
  rw [read?, opened]
  simp only [bind, Option.bind, columns, table, blank, if_true]

/-- A statement with columns is read as what it was written from. -/
theorem read?_text {s : Select} (some_column : s.columns ≠ []) : read? (text s) = some s := by
  have read : read? (String.ofList (chars s ++ [])) = some s := read?_append some_column rfl
  rwa [List.append_nil] at read

end Keyscan.Statement
