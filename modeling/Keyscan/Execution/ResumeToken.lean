import Keyscan.Json.Decoding
import Keyscan.Json.Selection
import Keyscan.Text.Base64
import Keyscan.Text.Blank

/-!
Resume tokens: where an enumeration can be taken up again. A token is bound to its statement by the
statement's fingerprint.
-/

set_option autoImplicit false

namespace Keyscan

/-- A position in the enumeration of one statement. -/
structure ResumeToken where
  fingerprint : String
  /-- The store's own continuation token. -/
  token : String
  deriving DecidableEq, Repr

namespace ResumeToken

/-- The token as a JSON object. -/
def toJson (t : ResumeToken) : Json :=
  .object [("fingerprint", .string t.fingerprint), ("token", .string t.token)]

/-- The fields of the JSON object, both required. -/
def fields : List Json.Field :=
  [.of "fingerprint" true Json.asString, .of "token" true Json.asString]

/-- The token in a JSON value. -/
def ofJson (j : Json) : Except DecodeError ResumeToken := do
  let members ← Json.fieldsOf .text "ResumeToken" fields j
  let fingerprint ← Json.requiredField Json.asString "fingerprint" members
  let token ← Json.requiredField Json.asString "token" members
  .ok ⟨fingerprint, token⟩

/-- The text form: the compact JSON text in URL-safe base64. -/
def encode (t : ResumeToken) : String :=
  Text.Base64.encodeUrlSafe (Text.utf8Bytes t.toJson.print)

/-- The token in the bytes of a JSON text. Of a text that is not JSON throughout, only the part with
the fields needs to be. -/
def ofBytes? (bytes : List UInt8) : Option ResumeToken := do
  let value ←
    match (Text.ofUtf8Bytes? bytes).bind Json.read? with
    | some value => some value
    | none => Json.readSelectedBytes? (.ofFields fields) bytes
  (ofJson value).toOption

/-- The token with a text form. White space around the text does not count. -/
def decode? (text : String) : Option ResumeToken :=
  (Text.Base64.decodeUrlSafe? (Text.trim text)).bind ofBytes?

end ResumeToken

end Keyscan
