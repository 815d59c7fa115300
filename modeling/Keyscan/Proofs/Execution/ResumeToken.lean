import Keyscan.Execution.ResumeToken
import Keyscan.Proofs.Json.Values
import Keyscan.Proofs.Text.Base64

/-!
Resume tokens read back: whatever the fingerprint and the token of a store hold, the text form of a
resume token is read as the resume token again. JSON gives the two texts back, and base64 the bytes of
the JSON text. The symbols of base64 are no white space, so white space around the text is trimmed and
nothing else.
-/

set_option autoImplicit false

namespace Keyscan

namespace Text

/-- What is left of white space in front of a text without any is the text. -/
theorem dropWhile_blank {before cs after : List Char} (blank : ∀ c ∈ before, isBlankChar c = true)
    (dark : ∀ c ∈ cs, isBlankChar c = false) (written : cs ≠ []) :
    (before ++ (cs ++ after)).dropWhile isBlankChar = cs ++ after := by
  obtain ⟨c, cs, rfl⟩ := List.exists_cons_of_ne_nil written
  rw [List.dropWhile_append_of_pos blank, List.cons_append, List.dropWhile_cons_of_neg]
  simp [dark c List.mem_cons_self]

/-- Trimming drops the white space around a text that holds none. -/
theorem trimChars_between {before cs after : List Char}
    (before_blank : ∀ c ∈ before, isBlankChar c = true)
    (after_blank : ∀ c ∈ after, isBlankChar c = true)
    (dark : ∀ c ∈ cs, isBlankChar c = false) : trimChars (before ++ (cs ++ after)) = cs := by
  by_cases written : cs = []
  · have spent : (after ++ []).dropWhile isBlankChar = [] :=
      List.dropWhile_append_of_pos after_blank
    rw [List.append_nil] at spent
    rw [written, List.nil_append, trimChars, List.dropWhile_append_of_pos before_blank, spent]
    rfl
  · have reversed : (after.reverse ++ (cs.reverse ++ [])).dropWhile isBlankChar = cs.reverse ++ [] :=
      dropWhile_blank (fun c mem => after_blank c (List.mem_reverse.1 mem))
        (fun c mem => dark c (List.mem_reverse.1 mem)) (mt List.reverse_eq_nil_iff.1 written)
    rw [List.append_nil, ← List.reverse_append] at reversed
    rw [trimChars, dropWhile_blank before_blank dark written, reversed, List.reverse_reverse]

namespace Base64

/-- A character of URL-safe base64 is the symbol of a value. -/
theorem exists_symbol {bytes : List UInt8} {c : Char} (mem : c ∈ (encodeUrlSafe bytes).toList) :
    ∃ v : Fin 64, c = Alphabet.urlSafe.symbol v.1 := by
  rw [encodeUrlSafe, String.toList_ofList] at mem
  obtain ⟨v, spelled, rfl⟩ := List.mem_map.1 mem
  exact ⟨⟨v, sextets_lt bytes v spelled⟩, rfl⟩

/-- URL-safe base64 is made of ASCII letters, digits, hyphens and underscores. -/
theorem urlSafe_of_mem {bytes : List UInt8} {c : Char} (mem : c ∈ (encodeUrlSafe bytes).toList) :
    c.isAlphanum = true ∨ c = '-' ∨ c = '_' := by
  have all : ∀ v : Fin 64, (Alphabet.urlSafe.symbol v.1).isAlphanum = true ∨
      Alphabet.urlSafe.symbol v.1 = '-' ∨ Alphabet.urlSafe.symbol v.1 = '_' := by
    decide
  obtain ⟨v, rfl⟩ := exists_symbol mem
  exact all v

/-- It holds no white space. -/
theorem dark_of_mem {bytes : List UInt8} {c : Char} (mem : c ∈ (encodeUrlSafe bytes).toList) :
    isBlankChar c = false := by
  have all : ∀ v : Fin 64, isBlankChar (Alphabet.urlSafe.symbol v.1) = false := by decide
  obtain ⟨v, rfl⟩ := exists_symbol mem
  exact all v

end Base64

end Text

namespace ResumeToken

/-- A token is read back from its JSON object. -/
theorem ofJson_toJson (t : ResumeToken) : ofJson t.toJson = .ok t := rfl

/-- A token is read back from its text form, with any white space around it. -/
theorem decode?_between (t : ResumeToken) {before after : String}
    (before_blank : Text.isBlank before = true) (after_blank : Text.isBlank after = true) :
    decode? (before ++ t.encode ++ after) = some t := by
  have exact : t.toJson.Exact := ⟨trivial, trivial, trivial⟩
  have json : Json.read? t.toJson.print = some t.toJson :=
    (Json.read?_print exact).trans (if_pos (Nat.le_of_ble_eq_true rfl))
  have bytes : ofBytes? (Text.utf8Bytes t.toJson.print) = some t := by
    rw [ofBytes?, Text.ofUtf8Bytes?_utf8Bytes, Option.bind_some, json]
    change (ofJson t.toJson).toOption = some t
    rw [ofJson_toJson]
    rfl
  have dark : ∀ c ∈ t.encode.toList, Text.isBlankChar c = false :=
    fun _ mem => Text.Base64.dark_of_mem mem
  have trimmed : Text.trim (before ++ t.encode ++ after) = t.encode := by
    rw [Text.trim, String.toList_append, String.toList_append, List.append_assoc,
      Text.trimChars_between (List.all_eq_true.1 before_blank) (List.all_eq_true.1 after_blank) dark,
      String.ofList_toList]
  rw [decode?, trimmed, encode, Text.Base64.decodeUrlSafe?_encodeUrlSafe, Option.bind_some, bytes]

/-- In particular from the text form alone. -/
@[simp] theorem decode?_encode (t : ResumeToken) : decode? t.encode = some t := by
  have alone : decode? ("" ++ t.encode ++ "") = some t := t.decode?_between rfl rfl
  rwa [String.empty_append, String.append_empty] at alone

/-- The text form of a token is made of ASCII letters, digits, hyphens and underscores, and it is read
as the token again, with any white space around it. -/
theorem encode_read_back (t : ResumeToken) :
    (∀ c ∈ t.encode.toList, c.isAlphanum = true ∨ c = '-' ∨ c = '_') ∧
      ∀ before after, Text.isBlank before = true → Text.isBlank after = true →
        decode? (before ++ t.encode ++ after) = some t :=
  ⟨fun _ mem => Text.Base64.urlSafe_of_mem mem, fun _ _ => t.decode?_between⟩

end ResumeToken

end Keyscan
