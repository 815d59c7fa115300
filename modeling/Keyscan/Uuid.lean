/-!
Universally unique identifiers: 32 hexadecimal digits, written in five groups joined by hyphens.
-/

set_option autoImplicit false

namespace Keyscan

/-- The lowercase hexadecimal digits. -/
def isLowerHex (c : Char) : Bool := c.isDigit || ('a' ≤ c && c ≤ 'f')

/-- An identifier by its digits. -/
structure Uuid where
  digits : List Char
  length_eq : digits.length = 32
  lowerHex : digits.all isLowerHex = true
  deriving DecidableEq

/-- Why a text is no identifier. -/
inductive UuidError where
  | wrongLength
  | invalidCharacter (found : Char) (byteIndex : Nat)
  | groupCount (found : Nat)
  | groupLength (group expected found : Nat)
  deriving DecidableEq, Repr

/-- The text of an error. -/
def UuidError.message : UuidError → String
  | .wrongLength => "expected hyphenated 36-character form"
  | .invalidCharacter found byteIndex => s!"invalid character: found `{found}` at {byteIndex}"
  | .groupCount found => s!"invalid group count: expected 5, found {found}"
  | .groupLength group expected found =>
      s!"invalid group length in group {group}: expected {expected}, found {found}"

namespace Uuid

/-- The numbers of digits of the five groups. -/
def groupLengths : List Nat := [8, 4, 4, 4, 12]

/-- Joins groups of the given lengths, cut from the digits, by hyphens. -/
def hyphenate : List Nat → List Char → List Char
  | [], _ => []
  | [n], digits => digits.take n
  | n :: more, digits => digits.take n ++ '-' :: hyphenate more (digits.drop n)

/-- The text of an identifier. -/
def print (u : Uuid) : String := String.ofList (hyphenate groupLengths u.digits)

/-- The identifier with the given digits, if they are one's. -/
def ofDigits? (digits : List Char) : Option Uuid :=
  if h : digits.length = 32 ∧ digits.all isLowerHex = true then some ⟨digits, h.1, h.2⟩ else none

/-- Reads the text of an identifier; letters may be of either case. -/
def read? (cs : List Char) : Option Uuid := do
  let lower := cs.map Char.toLower
  let u ← ofDigits? (lower.filter (· != '-'))
  if lower = hyphenate groupLengths u.digits then some u else none

/-- The first character that occurs in no identifier, with its index among the bytes of the text. -/
def findForeign? (byteIndex : Nat) : List Char → Option (Char × Nat)
  | [] => none
  | c :: rest =>
      if isLowerHex c.toLower || c == '-' then findForeign? (byteIndex + c.utf8Size) rest
      else some (c, byteIndex)

/-- The first group that is closed at the wrong place. Groups are numbered from `group` on, and the
next one starts at `start`. -/
def misplacedGroup (group start : Nat) (hyphens lengths : List Nat) : UuidError :=
  match hyphens, lengths with
  | h :: hyphens, n :: lengths =>
      if h = start + n then misplacedGroup (group + 1) (h + 1) hyphens lengths
      else .groupLength group n (h - start)
  | _, _ => .groupLength group 12 (36 - start)

/-- The fault of a text that is no identifier. -/
def diagnose (cs : List Char) : UuidError :=
  match findForeign? 0 cs with
  | some (c, i) => .invalidCharacter c i
  | none =>
      let hyphens := (cs.zipIdx.filter (·.1 == '-')).map (·.2)
      if hyphens.length ≠ 4 then .groupCount (hyphens.length + 1)
      else misplacedGroup 0 0 hyphens groupLengths

/-- Reads the text of an identifier, which takes 36 bytes. -/
def read (text : String) : Except UuidError Uuid :=
  if text.utf8ByteSize ≠ 36 then .error .wrongLength
  else
    match read? text.toList with
    | some u => .ok u
    | none => .error (diagnose text.toList)

end Uuid

end Keyscan
