import Keyscan.Proofs.Text.PaddedBase64

/-!
Unpadded base64 in the URL-safe alphabet accepts nothing but what it writes: of the texts only the one
that is written for bytes is read as them (`decodeUrlSafe?_eq_some_iff`). The same holds of UTF-8
(`ofUtf8Bytes?_eq_some_iff`), so a text that is carried through both has one form.
-/

set_option autoImplicit false

namespace Keyscan.Text

/-- Bytes are read as a text exactly when they are its UTF-8 form. -/
theorem ofUtf8Bytes?_eq_some_iff {bytes : List UInt8} {s : String} :
    ofUtf8Bytes? bytes = some s ↔ bytes = utf8Bytes s := by
  constructor
  · intro read
    rw [ofUtf8Bytes?, String.fromUTF8?] at read
    split at read
    · cases read
      rfl
    · cases read
  · rintro rfl
    exact ofUtf8Bytes?_utf8Bytes s

namespace Base64

/-! ### Symbols -/

/-- Only the symbol of a value has it. -/
theorem eq_symbol {a : Alphabet} {c : Char} {v : Nat} (value : a.value? c.toNat = some v) :
    v < 64 ∧ c = a.symbol v := by
  -- Only codes below 128 have values, and all of those can be tried.
  have last : a.lastTwo.1.toNat < 128 ∧ a.lastTwo.2.toNat < 128 := by cases a <;> decide
  have ascii : c.toNat < 128 := by grind [Alphabet.value?]
  have all : ∀ code : Fin 128, ∀ v ∈ a.value? code.1,
      v < 64 ∧ Char.ofNat code.1 = a.symbol v := by
    cases a <;> decide +kernel
  have own := all ⟨c.toNat, ascii⟩ v value
  rwa [Char.ofNat_toNat] at own

/-- Characters that are read as values are their symbols. -/
theorem eq_map_symbol {a : Alphabet} {cs : List Char} {vs : List Nat}
    (read : cs.mapM (fun c => a.value? c.toNat) = some vs) :
    cs = vs.map a.symbol ∧ ∀ v ∈ vs, v < 64 := by
  induction cs generalizing vs with
  | nil =>
      cases read
      exact ⟨rfl, nofun⟩
  | cons c rest ih =>
      rw [List.mapM_cons] at read
      obtain ⟨v, value, others⟩ := Option.bind_eq_some_iff.1 read
      obtain ⟨more, behind, given⟩ := Option.bind_eq_some_iff.1 others
      cases given
      obtain ⟨small, own⟩ := eq_symbol value
      obtain ⟨same, all⟩ := ih behind
      exact ⟨by rw [List.map_cons, ← own, ← same], List.forall_mem_cons.2 ⟨small, all⟩⟩

/-! ### Texts -/

/-- A text is read as bytes exactly when it is the one written for them. -/
theorem decodeUrlSafe?_eq_some_iff {text : String} {bytes : List UInt8} :
    decodeUrlSafe? text = some bytes ↔ text = encodeUrlSafe bytes := by
  constructor
  · intro read
    obtain ⟨vs, values, spelled⟩ := Option.bind_eq_some_iff.1 read
    obtain ⟨same, small⟩ := eq_map_symbol values
    split at spelled
    · rename_i canonical
      cases spelled
      rw [encodeUrlSafe, sextets_octets small canonical.2 canonical.1, ← same, String.ofList_toList]
    · cases spelled
  · rintro rfl
    exact decodeUrlSafe?_encodeUrlSafe bytes

end Base64

end Keyscan.Text
