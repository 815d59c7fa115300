import Keyscan.Text.Base64

/-!
Base64 read back: every list of bytes is the reading of its own unpadded text, because each symbol
tells its value and the values tell the bytes. Both alphabets share the lemmas about symbols and
groups.
-/

set_option autoImplicit false

namespace Keyscan.Text

/-- A text is the reading of its UTF-8 bytes. -/
@[simp] theorem ofUtf8Bytes?_utf8Bytes (s : String) : ofUtf8Bytes? (utf8Bytes s) = some s := by
  have bytes : (⟨(utf8Bytes s).toArray⟩ : ByteArray) = s.toByteArray := by simp [utf8Bytes]
  unfold ofUtf8Bytes? String.fromUTF8?
  rw [bytes]
  simp [s.isValidUTF8]
  rfl

namespace Base64

/-! ### Symbols -/

/-- The symbol of a value below 64 has that value. -/
theorem value?_symbol (a : Alphabet) {v : Nat} (h : v < 64) :
    a.value? (a.symbol v).toNat = some v := by
  have all : ∀ i : Fin 64, a.value? (a.symbol i.1).toNat = some i.1 := by
    cases a <;> decide
  exact all ⟨v, h⟩

/-- Every value that spells bytes has a symbol. -/
theorem sextets_lt (bytes : List UInt8) : ∀ v ∈ sextets bytes, v < 64 := by
  fun_induction sextets bytes with
  | case1 a b c rest ih =>
      have ha := a.toNat_lt
      have hb := b.toNat_lt
      have hc := c.toNat_lt
      intro v hv
      simp only [List.mem_cons] at hv
      rcases hv with rfl | rfl | rfl | rfl | hv
      · omega
      · omega
      · omega
      · omega
      · exact ih v hv
  | case2 a b =>
      have ha := a.toNat_lt
      have hb := b.toNat_lt
      intro v hv
      simp only [List.mem_cons, List.not_mem_nil, or_false] at hv
      rcases hv with rfl | rfl | rfl <;> omega
  | case3 a =>
      have ha := a.toNat_lt
      intro v hv
      simp only [List.mem_cons, List.not_mem_nil, or_false] at hv
      rcases hv with rfl | rfl <;> omega
  | case4 => simp

/-- Reading the symbols of values gives the values. -/
theorem mapM_value?_symbol (a : Alphabet) {vs : List Nat} (small : ∀ v ∈ vs, v < 64) :
    (vs.map a.symbol).mapM (fun c => a.value? c.toNat) = some vs := by
  induction vs with
  | nil => rfl
  | cons v rest ih =>
      have head := value?_symbol a (small v List.mem_cons_self)
      have tail := ih fun w hw => small w (List.mem_cons_of_mem _ hw)
      simp [head, tail]

/-! ### Groups -/

/-- The values of bytes spell the bytes. -/
theorem octets_sextets (bytes : List UInt8) : octets (sextets bytes) = bytes := by
  fun_induction sextets bytes with
  | case1 a b c rest ih =>
      have ha := a.toNat_lt
      have hb := b.toNat_lt
      have hc := c.toNat_lt
      simp only [octets, ih, List.cons.injEq, and_true, ← UInt8.toNat_inj, UInt8.toNat_ofNat']
      omega
  | case2 a b =>
      have ha := a.toNat_lt
      have hb := b.toNat_lt
      simp only [octets, List.cons.injEq, and_true, ← UInt8.toNat_inj, UInt8.toNat_ofNat']
      omega
  | case3 a =>
      have ha := a.toNat_lt
      simp only [octets, List.cons.injEq, and_true, ← UInt8.toNat_inj, UInt8.toNat_ofNat']
      omega
  | case4 => rfl

/-- The last value of a group is filled up with zero bits. -/
theorem tailBitsZero_sextets (bytes : List UInt8) : tailBitsZero (sextets bytes) = true := by
  fun_induction sextets bytes with
  | case1 a b c rest ih => simpa [tailBitsZero] using ih
  | case2 a b => simp [tailBitsZero]
  | case3 a => simp [tailBitsZero]
  | case4 => rfl

/-- No value stands alone behind the groups of four. -/
theorem length_sextets_mod (bytes : List UInt8) : (sextets bytes).length % 4 ≠ 1 := by
  fun_induction sextets bytes with
  | case1 a b c rest ih =>
      simp only [List.length_cons]
      omega
  | case2 a b => simp
  | case3 a => simp
  | case4 => simp

/-! ### Texts -/

/-- Bytes are the reading of their unpadded text. -/
@[simp] theorem decodeUrlSafe?_encodeUrlSafe (bytes : List UInt8) :
    decodeUrlSafe? (encodeUrlSafe bytes) = some bytes := by
  unfold decodeUrlSafe? encodeUrlSafe
  rw [String.toList_ofList, mapM_value?_symbol .urlSafe (sextets_lt bytes)]
  have fits := length_sextets_mod bytes
  have zero := tailBitsZero_sextets bytes
  simp [fits, zero, octets_sextets]

end Base64

end Keyscan.Text
