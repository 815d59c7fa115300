import Keyscan.Proofs.Compiled.Compilation
import Keyscan.Proofs.Statement

/-!
The language of statements. What is read as a name is a quoted name, so every text that is read as a
statement is the text of that statement, but for white space behind it: the reader accepts exactly
what the writer writes. A statement is thus told from its text, and models have one text exactly when
they read the same attributes of the same table in the same order.
-/

set_option autoImplicit false

namespace Keyscan.Statement

/-! ### What is read -/

/-- What is dropped stood in front of the rest. -/
theorem eq_of_dropPrefix? {start cs rest : List Char} (dropped : dropPrefix? start cs = some rest) :
    cs = start ++ rest := by
  induction start generalizing cs with
  | nil => exact Option.some.inj dropped
  | cons x start ih =>
      cases cs with
      | nil => cases dropped
      | cons c cs =>
          rw [dropPrefix?] at dropped
          split at dropped
          next same => rw [same, ih dropped, List.cons_append]
          next => cases dropped

/-- The characters of a name that is read stand there with every quote doubled, up to a quote. -/
theorem eq_of_readNameBody {cs name rest : List Char} (read : readNameBody cs = some (name, rest)) :
    cs = doubleQuotes name ++ '"' :: rest := by
  induction cs using readNameBody.induct generalizing name with
  | case1 => cases read
  | case2 =>
      cases read
      rfl
  | case3 more ih =>
      rw [readNameBody, Option.map_eq_some_iff] at read
      obtain ⟨⟨inner, behind⟩, body, same⟩ := read
      cases same
      rw [ih body]
      rfl
  | case4 c more notDoubled =>
      rw [readNameBody] at read
      · cases read
        rfl
      · exact notDoubled
  | case5 c more notLast notDoubled notClosing ih =>
      have plain : c ≠ '"' := by
        rintro rfl
        cases more with
        | nil => exact notLast rfl rfl
        | cons d more => exact notClosing d more rfl rfl
      rw [readNameBody, Option.map_eq_some_iff] at read
      · obtain ⟨⟨inner, behind⟩, body, same⟩ := read
        cases same
        rw [ih body, doubleQuotes_cons plain, List.cons_append]
      · exact notLast
      · exact notDoubled
      · exact notClosing

/-- What is read as a name is a quoted name. -/
theorem eq_of_readName {cs rest : List Char} {name : String} (read : readName cs = some (name, rest)) :
    cs = quoteChars name ++ rest := by
  rw [readName.eq_def] at read
  split at read
  next body =>
    obtain ⟨⟨inner, behind⟩, inside, same⟩ := Option.map_eq_some_iff.1 read
    cases same
    rw [eq_of_readNameBody inside, quoteChars, String.toList_ofList]
    simp
  next => cases read

/-- What is read as columns is a list of them, one at least, with the table clause behind. -/
theorem eq_of_readColumns {fuel : Nat} {cs rest : List Char} {columns : List String}
    (read : readColumns fuel cs = some (columns, rest)) :
    columns ≠ [] ∧ cs = columnChars columns ++ fromClause ++ rest := by
  induction fuel generalizing cs columns with
  | zero => cases read
  | succ fuel ih =>
      rw [readColumns, Option.bind_eq_bind, Option.bind_eq_some_iff] at read
      obtain ⟨⟨column, behind⟩, name, read⟩ := read
      have first := eq_of_readName name
      simp only at read
      split at read
      next more dropped =>
        obtain ⟨⟨others, after⟩, later, same⟩ := Option.map_eq_some_iff.1 read
        cases same
        obtain ⟨some_column, text⟩ := ih later
        obtain ⟨d, others, rfl⟩ := List.exists_cons_of_ne_nil some_column
        refine ⟨List.cons_ne_nil _ _, ?_⟩
        rw [first, eq_of_dropPrefix? dropped, text, columnChars]
        simp only [List.append_assoc]
      next =>
        obtain ⟨after, dropped, same⟩ := Option.map_eq_some_iff.1 read
        cases same
        refine ⟨List.cons_ne_nil _ _, ?_⟩
        rw [first, eq_of_dropPrefix? dropped, columnChars, List.append_assoc]

/-- What is read as a statement is the text of the statement with white space behind it. -/
theorem eq_of_read? {text : String} {s : Select} (read : read? text = some s) :
    s.columns ≠ [] ∧ ∃ tail, tail.all Text.isBlankChar = true ∧ text.toList = chars s ++ tail := by
  simp only [read?, Option.bind_eq_bind, Option.bind_eq_some_iff] at read
  obtain ⟨body, opened, ⟨columns, behind⟩, listed, ⟨table, tail⟩, named, result⟩ := read
  split at result
  next blank =>
    cases result
    obtain ⟨some_column, written⟩ := eq_of_readColumns listed
    have quoted := eq_of_readName named
    refine ⟨some_column, tail, blank, ?_⟩
    simp only at written quoted ⊢
    rw [eq_of_dropPrefix? opened, written, quoted, chars]
    simp only [List.append_assoc]
  next => cases result

/-! ### What is written -/

/-- Columns are written as quoted names joined by commas. -/
theorem columnChars_eq (columns : List String) :
    String.ofList (columnChars columns) = ", ".intercalate (columns.map quote) := by
  induction columns with
  | nil => rfl
  | cons c columns ih =>
      cases columns with
      | nil =>
          rw [List.map_singleton, String.intercalate_singleton]
          rfl
      | cons d columns =>
          rw [List.map_cons] at ih
          rw [columnChars, String.ofList_append, String.ofList_append, ih, List.map_cons,
            List.map_cons, String.intercalate_cons_cons]
          rfl

/-- The text of a statement with some text behind it. -/
theorem ofList_chars (s : Select) (tail : List Char) :
    String.ofList (chars s ++ tail) =
      "SELECT " ++ ", ".intercalate (s.columns.map quote) ++ " FROM " ++ quote s.table ++
        String.ofList tail := by
  rw [chars, String.ofList_append, String.ofList_append, String.ofList_append,
    String.ofList_append, columnChars_eq]
  rfl

/-! ### The language -/

/-- A text is read as a statement exactly when it is the text of that statement, with white space
behind it or without. So the statement of a model tells its table and its attributes in order, and
nothing else of it. -/
theorem read?_iff_written :
    (∀ (s table : String) (columns : List String),
      read? s = some ⟨table, columns⟩ ↔
        columns ≠ [] ∧ ∃ tail : String, Text.isBlank tail = true ∧
          s = "SELECT " ++ ", ".intercalate (columns.map quote) ++ " FROM " ++ quote table ++ tail) ∧
    (∀ m : QueryModel, read? (text (ofModel m)) = some ⟨m.table, m.attributeNames⟩) ∧
    ∀ m n : QueryModel,
      text (ofModel m) = text (ofModel n) ↔
        m.table = n.table ∧ m.attributeNames = n.attributeNames := by
  have read_model : ∀ m : QueryModel, read? (text (ofModel m)) = some ⟨m.table, m.attributeNames⟩ :=
    fun m => read?_text (CompiledQuery.attributeNames_ne_nil m)
  refine ⟨?_, read_model, ?_⟩
  · intro s table columns
    constructor
    · intro read
      obtain ⟨some_column, tail, blank, written⟩ := eq_of_read? read
      refine ⟨some_column, String.ofList tail, ?_, ?_⟩
      · rw [Text.isBlank, String.toList_ofList]
        exact blank
      · rw [← ofList_chars ⟨table, columns⟩, ← written, String.ofList_toList]
    · rintro ⟨some_column, tail, blank, rfl⟩
      have written := ofList_chars ⟨table, columns⟩ tail.toList
      rw [String.ofList_toList] at written
      rw [← written]
      exact read?_append some_column blank
  · intro m n
    constructor
    · intro same
      have read : some (⟨m.table, m.attributeNames⟩ : Select) = some ⟨n.table, n.attributeNames⟩ := by
        rw [← read_model m, same, read_model n]
      rw [Option.some.injEq, Select.mk.injEq] at read
      exact read
    · rintro ⟨table, attributes⟩
      rw [ofModel, table, attributes, ofModel]

end Keyscan.Statement
