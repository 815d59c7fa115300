import Keyscan.Digest.Sha256
import Keyscan.Query.Model
import Keyscan.Text.Base64

/-!
Select statements: a list of columns and a table, all names between double quotes and a quote inside
a name written twice. Statements carry neither predicates nor limits; paging belongs to the request.
-/

set_option autoImplicit false

namespace Keyscan

/-- What a statement asks for. -/
structure Select where
  table : String
  columns : List String
  deriving DecidableEq, Repr

namespace Statement

/-! ### Writing -/

/-- Characters with every quote written twice. -/
def doubleQuotes (cs : List Char) : List Char :=
  cs.flatMap fun c => if c = '"' then ['"', '"'] else [c]

/-- The characters of a name between quotes. -/
def quoteChars (name : String) : List Char := '"' :: (doubleQuotes name.toList ++ ['"'])

/-- A name between quotes. -/
def quote (name : String) : String := String.ofList (quoteChars name)

/-- The beginning of every statement. -/
def opening : List Char := "SELECT ".toList

/-- What stands between two columns. -/
def separator : List Char := ", ".toList

/-- What stands between the columns and the table. -/
def fromClause : List Char := " FROM ".toList

/-- Quoted columns joined by separators. -/
def columnChars : List String → List Char
  | [] => []
  | [c] => quoteChars c
  | c :: d :: rest => quoteChars c ++ separator ++ columnChars (d :: rest)

/-- The characters of a statement. -/
def chars (s : Select) : List Char :=
  opening ++ columnChars s.columns ++ fromClause ++ quoteChars s.table

/-- The text of a statement. -/
def text (s : Select) : String := String.ofList (chars s)

/-- What a model asks for. -/
def ofModel (m : QueryModel) : Select := ⟨m.table, m.attributeNames⟩

/-- The base64 form of the digest of a text. -/
def fingerprint (text : String) : String :=
  Text.Base64.encode (Digest.Sha256.hash (Text.utf8Bytes text))

/-! ### Reading -/

/-- The rest behind a given beginning. -/
def dropPrefix? : List Char → List Char → Option (List Char)
  | [], cs => some cs
  | _ :: _, [] => none
  | x :: xs, c :: cs => if x = c then dropPrefix? xs cs else none

/-- The characters up to the closing quote of a name, and the rest behind it. -/
def readNameBody : List Char → Option (List Char × List Char)
  | [] => none
  | ['"'] => some ([], [])
  | '"' :: '"' :: rest => (readNameBody rest).map fun r => ('"' :: r.1, r.2)
  | '"' :: c :: rest => some ([], c :: rest)
  | c :: rest => (readNameBody rest).map fun r => (c :: r.1, r.2)

/-- A quoted name and the rest behind it. -/
def readName (cs : List Char) : Option (String × List Char) :=
  match cs with
  | '"' :: rest => (readNameBody rest).map fun r => (String.ofList r.1, r.2)
  | _ => none

/-- Columns up to the table clause, at most so many, and the rest behind the clause. -/
def readColumns : Nat → List Char → Option (List String × List Char)
  | 0, _ => none
  | fuel + 1, cs => do
      let (column, rest) ← readName cs
      match dropPrefix? separator rest with
      | some rest => (readColumns fuel rest).map fun r => (column :: r.1, r.2)
      | none => (dropPrefix? fromClause rest).map fun rest => ([column], rest)

/-- What a statement asks for, when it is one. White space may follow it. -/
def read? (text : String) : Option Select := do
  let rest ← dropPrefix? opening text.toList
  let (columns, rest) ← readColumns rest.length rest
  let (table, rest) ← readName rest
  if rest.all Text.isBlankChar then some ⟨table, columns⟩ else none

end Statement

end Keyscan
