import Keyscan.Text.Utf8

/-!
Base64: bytes as symbols of six bits each, in the standard alphabet with padding and in the URL-safe
alphabet without. Readers accept the canonical form only: unused bits of the last symbol are zero and
padding is exactly what the length asks for.
-/

set_option autoImplicit false

namespace Keyscan.Text.Base64

/-- The two alphabets differ in the last two symbols. -/
inductive Alphabet where
  | standard
  | urlSafe
  deriving DecidableEq, Repr

/-- The symbols of the values 62 and 63. -/
def Alphabet.lastTwo : Alphabet → Char × Char
  | .standard => ('+', '/')
  | .urlSafe => ('-', '_')

/-- The symbol of a value below 64. -/
def Alphabet.symbol (a : Alphabet) (value : Nat) : Char :=
  if value < 26 then Char.ofNat (65 + value)
  else if value < 52 then Char.ofNat (71 + value)
  else if value < 62 then Char.ofNat (value - 4)
  else if value = 62 then a.lastTwo.1
  else a.lastTwo.2

/-- The value of the symbol with the given character code. -/
def Alphabet.value? (a : Alphabet) (code : Nat) : Option Nat :=
  if 65 ≤ code ∧ code ≤ 90 then some (code - 65)
  else if 97 ≤ code ∧ code ≤ 122 then some (code - 71)
  else if 48 ≤ code ∧ code ≤ 57 then some (code + 4)
  else if code = a.lastTwo.1.toNat then some 62
  else if code = a.lastTwo.2.toNat then some 63
  else none

/-! ### Groups of three bytes and four values -/

/-- The values of six bits that spell the bytes; the last one is filled up with zero bits. -/
def sextets : List UInt8 → List Nat
  | a :: b :: c :: rest =>
      a.toNat / 4 :: (a.toNat % 4 * 16 + b.toNat / 16) :: (b.toNat % 16 * 4 + c.toNat / 64) ::
        c.toNat % 64 :: sextets rest
  | [a, b] => [a.toNat / 4, a.toNat % 4 * 16 + b.toNat / 16, b.toNat % 16 * 4]
  | [a] => [a.toNat / 4, a.toNat % 4 * 16]
  | [] => []

/-- The bytes that the values spell. A lone last value spells nothing, and bits left over are
dropped: the readers below refuse both beforehand. -/
def octets : List Nat → List UInt8
  | a :: b :: c :: d :: rest =>
      UInt8.ofNat (a * 4 + b / 16) :: UInt8.ofNat (b % 16 * 16 + c / 4) ::
        UInt8.ofNat (c % 4 * 64 + d) :: octets rest
  | [a, b, c] => [UInt8.ofNat (a * 4 + b / 16), UInt8.ofNat (b % 16 * 16 + c / 4)]
  | [a, b] => [UInt8.ofNat (a * 4 + b / 16)]
  | _ => []

/-- Whether the bits left over in the last value are zero. -/
def tailBitsZero : List Nat → Bool
  | _ :: _ :: _ :: _ :: rest => tailBitsZero rest
  | [_, _, c] => c % 4 == 0
  | [_, b] => b % 16 == 0
  | _ => true

/-! ### The standard alphabet, padded -/

/-- The padding after the last symbols of so many bytes. -/
def padding (byteCount : Nat) : List Char :=
  List.replicate ((3 - byteCount % 3) % 3) '='

/-- Padded base64 in the standard alphabet. -/
def encode (bytes : List UInt8) : String :=
  String.ofList ((sextets bytes).map Alphabet.standard.symbol ++ padding bytes.length)

/-- Why a text is no padded base64. Offsets count the bytes of its UTF-8 form. -/
inductive DecodeError where
  /-- The length leaves a lone symbol over. -/
  | loneSymbol
  /-- A byte outside the alphabet, or a padding byte out of place. -/
  | badByte (byte : UInt8) (offset : Nat)
  /-- The last symbol carries bits that belong to no byte. -/
  | badLastSymbol (byte : UInt8) (offset : Nat)
  /-- Padding is missing. -/
  | badPadding
  deriving DecidableEq, Repr

/-- The wording of a decoding error. -/
def DecodeError.message : DecodeError → String
  | .loneSymbol => "Encoded text cannot have a 6-bit remainder."
  | .badByte byte offset => s!"Invalid byte {byte}, offset {offset}."
  | .badLastSymbol byte offset => s!"Invalid last symbol {byte}, offset {offset}."
  | .badPadding => "Invalid padding"

/-- The code of the padding character. -/
def padByte : UInt8 := 61

/-- The values of the bytes, or the first byte outside the alphabet with its offset. -/
def values (bytes : List UInt8) (offset : Nat) : Except DecodeError (List Nat) :=
  match bytes with
  | [] => .ok []
  | b :: rest =>
      match Alphabet.standard.value? b.toNat with
      | none => .error (.badByte b offset)
      | some v => (values rest (offset + 1)).map (v :: ·)

/-- Whether padding may stand after so many symbols: it is nothing but padding bytes, follows at
least two symbols of a group of four, and ends with the group at the latest. -/
def paddingFits (symbolCount : Nat) (pad : List UInt8) : Bool :=
  pad.isEmpty || (2 ≤ symbolCount % 4 && pad.all (· == padByte) &&
    symbolCount % 4 + pad.length ≤ 4)

/-- The symbols before the first padding byte, and all the rest. -/
def splitPadding (bytes : List UInt8) : List UInt8 × List UInt8 :=
  (bytes.takeWhile (· != padByte), bytes.dropWhile (· != padByte))

/-- A length that leaves a lone symbol over. A foreign last byte is named instead, since it is
most likely a stray line end. -/
def loneSymbolError (bytes : List UInt8) : DecodeError :=
  let last := bytes.getLastD padByte
  if last != padByte && (Alphabet.standard.value? last.toNat).isNone then
    .badByte last (bytes.length - 1)
  else .loneSymbol

/-- The bytes that a padded base64 text stands for. -/
def decode (text : String) : Except DecodeError (List UInt8) := do
  let bytes := utf8Bytes text
  if bytes.length % 4 = 1 then
    .error (loneSymbolError bytes)
  else
    let (symbols, pad) := splitPadding bytes
    let vs ← values symbols 0
    if !paddingFits symbols.length pad then
      .error (.badByte padByte symbols.length)
    else if !tailBitsZero vs then
      .error (.badLastSymbol (symbols.getLastD padByte) (symbols.length - 1))
    else if bytes.length % 4 ≠ 0 then
      .error .badPadding
    else
      .ok (octets vs)

/-! ### The URL-safe alphabet, unpadded -/

/-- Unpadded base64 in the URL-safe alphabet. -/
def encodeUrlSafe (bytes : List UInt8) : String :=
  String.ofList ((sextets bytes).map Alphabet.urlSafe.symbol)

/-- The bytes that an unpadded URL-safe base64 text stands for, if it is one. -/
def decodeUrlSafe? (text : String) : Option (List UInt8) := do
  let vs ← text.toList.mapM fun c => Alphabet.urlSafe.value? c.toNat
  if vs.length % 4 ≠ 1 ∧ tailBitsZero vs then some (octets vs) else none

end Keyscan.Text.Base64
