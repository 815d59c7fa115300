import Keyscan.Number.Literal
import Keyscan.Store.Protocol

/-!
Continuation tokens of the store in memory: the table and the offset of the next record, joined by a
newline, in URL-safe base64. The table may hold newlines itself, so the last one divides them.
-/

set_option autoImplicit false

namespace Keyscan.StoreToken

/-- The token for going on with a table at an offset. -/
def encode (table : String) (offset : Nat) : String :=
  Text.Base64.encodeUrlSafe (Text.utf8Bytes (table ++ "\n" ++ toString offset))

/-- The parts of a text before and behind its last newline. -/
def splitLastNewline? : List Char → Option (List Char × List Char)
  | [] => none
  | c :: rest =>
      match splitLastNewline? rest with
      | some (before, behind) => some (c :: before, behind)
      | none => if c = '\n' then some ([], rest) else none

/-- The table and the offset text of a token. -/
def parts? (token : String) : Option (String × List Char) := do
  let bytes ← Text.Base64.decodeUrlSafe? token
  let text ← Text.ofUtf8Bytes? bytes
  let (table, offset) ← splitLastNewline? text.toList
  some (String.ofList table, offset)

/-- The offset of a token, which must be one of the table. -/
def decode (token table : String) : Except StoreError Nat :=
  let invalid := StoreError.fatal s!"invalid continuation token '{token}'"
  match parts? token with
  | none => .error invalid
  | some (tokenTable, offset) =>
      if tokenTable ≠ table then
        .error (.fatal
          s!"continuation token for table '{tokenTable}' used against table '{table}'")
      else
        match readNatural 64 offset with
        | .ok n => .ok n
        | .error _ => .error invalid

end Keyscan.StoreToken
