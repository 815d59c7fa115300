import Keyscan.Proofs.Text.Base64

/-!
Padded base64 read back, and nothing else accepted. The reader gives bytes exactly for the text that
is written for them (`decode_ok_iff`), and the texts that it accepts are those of the canonical form:
groups of four symbols, the last of which may be cut short when its unused bits are zero and padding
fills it up (`canonical_iff`).
-/

set_option autoImplicit false

namespace Keyscan.Text

/-- The bytes of a text of characters below 128 are their codes. -/
theorem utf8Bytes_ascii {cs : List Char} (ascii : ∀ c ∈ cs, c.toNat < 128) :
    utf8Bytes (String.ofList cs) = cs.map fun c => UInt8.ofNat c.toNat := by
  rw [utf8Bytes, String.toByteArray_ofList]
  induction cs with
  | nil => rfl
  | cons c cs ih =>
      rw [List.forall_mem_cons] at ascii
      have one : String.utf8EncodeChar c = [UInt8.ofNat c.toNat] :=
        if_pos (Nat.le_of_lt_succ ascii.1)
      rw [List.utf8Encode_cons, ByteArray.toList_data_append, ih ascii.2,
        List.utf8Encode_singleton, one, List.data_toByteArray]
      rfl

/-- Texts with the same bytes are the same. -/
theorem utf8Bytes_inj {s t : String} (same : utf8Bytes s = utf8Bytes t) : s = t := by
  have read := ofUtf8Bytes?_utf8Bytes s
  rw [same, ofUtf8Bytes?_utf8Bytes] at read
  exact (Option.some.inj read).symm

namespace Base64

/-! ### Bytes of symbols -/

/-- The byte of the symbol of a value. -/
def symbolByte (v : Nat) : UInt8 := UInt8.ofNat (Alphabet.standard.symbol v).toNat

/-- A symbol is one byte, which is no padding and has the value of the symbol. -/
theorem symbolByte_spec {v : Nat} (small : v < 64) :
    (Alphabet.standard.symbol v).toNat < 128 ∧ symbolByte v ≠ padByte ∧
      Alphabet.standard.value? (symbolByte v).toNat = some v := by
  have all : ∀ i : Fin 64, (Alphabet.standard.symbol i.1).toNat < 128 ∧ symbolByte i.1 ≠ padByte ∧
      Alphabet.standard.value? (symbolByte i.1).toNat = some i.1 := by
    decide
  exact all ⟨v, small⟩

/-- Only the byte of a symbol has its value. -/
theorem eq_symbolByte {b : UInt8} {v : Nat} (value : Alphabet.standard.value? b.toNat = some v) :
    v < 64 ∧ b = symbolByte v := by
  have all : ∀ i : Fin 256, ∀ v ∈ Alphabet.standard.value? i.1,
      v < 64 ∧ UInt8.ofNat i.1 = symbolByte v := by
    decide +kernel
  obtain ⟨small, same⟩ := all ⟨b.toNat, b.toNat_lt⟩ v value
  exact ⟨small, by rw [← same, UInt8.ofNat_toNat]⟩

theorem values_map {vs : List Nat} (small : ∀ v ∈ vs, v < 64) (offset : Nat) :
    values (vs.map symbolByte) offset = .ok vs := by
  induction vs generalizing offset with
  | nil => rfl
  | cons v rest ih =>
      rw [List.forall_mem_cons] at small
      rw [List.map_cons, values, (symbolByte_spec small.1).2.2]
      simp only [ih small.2]
      rfl

/-- The bytes that are read as values are those of their symbols. -/
theorem eq_of_values {bytes : List UInt8} {offset : Nat} {vs : List Nat}
    (read : values bytes offset = .ok vs) :
    bytes = vs.map symbolByte ∧ ∀ v ∈ vs, v < 64 := by
  induction bytes generalizing offset vs with
  | nil =>
      cases read
      exact ⟨rfl, nofun⟩
  | cons b rest ih =>
      rw [values] at read
      cases value : Alphabet.standard.value? b.toNat with
      | none =>
          rw [value] at read
          cases read
      | some v =>
          rw [value] at read
          cases others : values rest (offset + 1) with
          | error e =>
              simp only [others] at read
              cases read
          | ok more =>
              simp only [others] at read
              cases read
              obtain ⟨small, own⟩ := eq_symbolByte value
              obtain ⟨same, all⟩ := ih others
              exact ⟨by rw [List.map_cons, ← own, ← same], List.forall_mem_cons.2 ⟨small, all⟩⟩

/-! ### Groups -/

/-- Values without bits left over are spelled by the bytes that they spell. -/
theorem sextets_octets {vs : List Nat} (small : ∀ v ∈ vs, v < 64)
    (zero : tailBitsZero vs = true) (complete : vs.length % 4 ≠ 1) : sextets (octets vs) = vs := by
  fun_induction octets vs with
  | case1 a b c d rest ih =>
      simp only [List.forall_mem_cons] at small
      obtain ⟨ha, hb, hc, hd, others⟩ := small
      have more := ih others zero (by simp only [List.length_cons] at complete; omega)
      simp only [sextets, more, UInt8.toNat_ofNat', List.cons.injEq, and_true]
      omega
  | case2 a b c =>
      simp only [List.forall_mem_cons] at small
      obtain ⟨ha, hb, hc, -⟩ := small
      simp only [tailBitsZero, beq_iff_eq] at zero
      simp only [sextets, UInt8.toNat_ofNat', List.cons.injEq, and_true]
      omega
  | case3 a b =>
      simp only [List.forall_mem_cons] at small
      obtain ⟨ha, hb, -⟩ := small
      simp only [tailBitsZero, beq_iff_eq] at zero
      simp only [sextets, UInt8.toNat_ofNat', List.cons.injEq, and_true]
      omega
  | case4 vs four three two =>
      rcases vs with _ | ⟨a, _ | ⟨b, _ | ⟨c, _ | ⟨d, rest⟩⟩⟩⟩
      · rfl
      · exact absurd rfl complete
      · exact absurd rfl (two a b)
      · exact absurd rfl (three a b c)
      · exact absurd rfl (four a b c d rest)

/-- Bytes are padded by as much as the last group of their values lacks. -/
theorem padding_length (bytes : List UInt8) :
    (3 - bytes.length % 3) % 3 = (4 - (sextets bytes).length % 4) % 4 := by
  fun_induction sextets bytes with
  | case1 a b c rest ih =>
      simp only [List.length_cons]
      omega
  | case2 a b => simp
  | case3 a => simp
  | case4 => rfl

/-- In a text of whole groups, padding fits when it fills a group of two symbols or more. -/
theorem paddingFits_iff {count : Nat} {pad : List UInt8} (whole : (count + pad.length) % 4 = 0) :
    paddingFits count pad = true ↔
      count % 4 ≠ 1 ∧ pad = List.replicate ((4 - count % 4) % 4) padByte := by
  rw [paddingFits, Bool.or_eq_true, List.isEmpty_iff]
  simp only [Bool.and_eq_true, decide_eq_true_eq, List.all_eq_true, beq_iff_eq,
    List.eq_replicate_iff]
  constructor
  · rintro (rfl | ⟨⟨symbols, all⟩, most⟩)
    · rw [List.length_nil] at whole ⊢
      exact ⟨by omega, by omega, nofun⟩
    · exact ⟨by omega, by omega, all⟩
  · rintro ⟨paired, length, all⟩
    cases pad with
    | nil => exact .inl rfl
    | cons b pad =>
        rw [List.length_cons] at length whole ⊢
        exact .inr ⟨⟨by omega, all⟩, by omega⟩

/-! ### Texts -/

/-- The bytes of a padded text. -/
theorem utf8Bytes_encode (bytes : List UInt8) :
    utf8Bytes (encode bytes) =
      (sextets bytes).map symbolByte ++ List.replicate ((3 - bytes.length % 3) % 3) padByte := by
  have ascii : ∀ c ∈ (sextets bytes).map Alphabet.standard.symbol ++ padding bytes.length,
      c.toNat < 128 := by
    intro c mem
    rcases List.mem_append.1 mem with symbol | pad
    · obtain ⟨v, spelled, rfl⟩ := List.mem_map.1 symbol
      exact (symbolByte_spec (sextets_lt bytes v spelled)).1
    · rw [List.eq_of_mem_replicate pad]
      decide
  rw [encode, utf8Bytes_ascii ascii, List.map_append, List.map_map, padding, List.map_replicate]
  rfl

/-- The first padding byte divides the bytes of a text. -/
theorem splitPadding_append {vs : List Nat} (small : ∀ v ∈ vs, v < 64) (pad : Nat) :
    splitPadding (vs.map symbolByte ++ List.replicate pad padByte) =
      (vs.map symbolByte, List.replicate pad padByte) := by
  have symbols : ∀ b ∈ vs.map symbolByte, (b != padByte) = true := by
    intro b mem
    obtain ⟨v, here, rfl⟩ := List.mem_map.1 mem
    exact bne_iff_ne.2 (symbolByte_spec (small v here)).2.1
  rw [splitPadding, List.takeWhile_append_of_pos symbols, List.dropWhile_append_of_pos symbols]
  cases pad with
  | zero => simp
  | succ pad => simp [List.replicate_succ]

/-- Bytes are the reading of their padded text. -/
@[simp] theorem decode_encode (bytes : List UInt8) : decode (encode bytes) = .ok bytes := by
  have small := sextets_lt bytes
  have filled := padding_length bytes
  have whole : ((sextets bytes).length + (3 - bytes.length % 3) % 3) % 4 = 0 := by
    have paired := length_sextets_mod bytes
    omega
  have fits : paddingFits (sextets bytes).length
      (List.replicate ((3 - bytes.length % 3) % 3) padByte) = true :=
    (paddingFits_iff (by rw [List.length_replicate]; exact whole)).2
      ⟨length_sextets_mod bytes, by rw [filled]⟩
  simp only [decode, utf8Bytes_encode, splitPadding_append small, List.length_append,
    List.length_map, List.length_replicate, whole, values_map small, fits, tailBitsZero_sextets,
    octets_sextets, bind, Except.bind]
  rfl

/-- A text that is read as bytes is the one written for them. -/
theorem eq_encode_of_decode {text : String} {bytes : List UInt8} (read : decode text = .ok bytes) :
    text = encode bytes := by
  have parts : (splitPadding (utf8Bytes text)).1 ++ (splitPadding (utf8Bytes text)).2 =
      utf8Bytes text :=
    List.takeWhile_append_dropWhile
  simp only [decode, bind, Except.bind] at read
  generalize splitPadding (utf8Bytes text) = split at parts read
  obtain ⟨symbols, pad⟩ := split
  rw [← parts] at read
  split at read
  · cases read
  cases spelled : values symbols 0 with
  | error e =>
      simp only [spelled] at read
      cases read
  | ok vs =>
      obtain ⟨rfl, small⟩ := eq_of_values spelled
      simp only [spelled, List.length_append, List.length_map] at read
      split at read
      · cases read
      split at read
      · cases read
      split at read
      · cases read
      · rename_i fits zero whole
        cases read
        rw [Bool.not_eq_true', Bool.not_eq_false] at fits zero
        obtain ⟨paired, filled⟩ := (paddingFits_iff (Decidable.not_not.1 whole)).1 fits
        have spelt := sextets_octets small zero paired
        refine utf8Bytes_inj ?_
        rw [utf8Bytes_encode, padding_length, spelt, ← filled, ← parts]

/-- The reader gives bytes exactly for the text that is written for them. -/
theorem decode_ok_iff {text : String} {bytes : List UInt8} :
    decode text = .ok bytes ↔ text = encode bytes :=
  ⟨eq_encode_of_decode, fun written => written ▸ decode_encode bytes⟩

/-! ### The canonical form -/

/-- Padded base64 without a choice: groups of four symbols, of which the last may be cut short by
bytes that are missing. The bits that no byte uses are zero, and padding fills the group. -/
inductive Canonical : List Char → Prop
  | nil : Canonical []
  /-- Two symbols for a last byte; the second has four unused bits. -/
  | oneByte {a b : Nat} (ha : a < 64) (hb : b < 64) (unused : b % 16 = 0) :
      Canonical [Alphabet.standard.symbol a, Alphabet.standard.symbol b, '=', '=']
  /-- Three symbols for two last bytes; the third has two unused bits. -/
  | twoBytes {a b c : Nat} (ha : a < 64) (hb : b < 64) (hc : c < 64) (unused : c % 4 = 0) :
      Canonical [Alphabet.standard.symbol a, Alphabet.standard.symbol b,
        Alphabet.standard.symbol c, '=']
  /-- Four symbols for three bytes. -/
  | group {a b c d : Nat} {rest : List Char} (ha : a < 64) (hb : b < 64) (hc : c < 64)
      (hd : d < 64) (others : Canonical rest) :
      Canonical (Alphabet.standard.symbol a :: Alphabet.standard.symbol b ::
        Alphabet.standard.symbol c :: Alphabet.standard.symbol d :: rest)

/-- Whole groups do not change the padding. -/
theorem padding_add_three (n : Nat) : padding (n + 3) = padding n := by
  rw [padding, Nat.add_mod_right, padding]

/-- What is written for bytes is in canonical form. -/
theorem canonical_encode (bytes : List UInt8) : Canonical (encode bytes).toList := by
  rw [encode, String.toList_ofList]
  fun_induction sextets bytes with
  | case1 a b c rest ih =>
      have ha := a.toNat_lt
      have hb := b.toNat_lt
      have hc := c.toNat_lt
      rw [show (a :: b :: c :: rest).length = rest.length + 3 from rfl, padding_add_three]
      exact .group (by omega) (by omega) (by omega) (by omega) ih
  | case2 a b =>
      have ha := a.toNat_lt
      have hb := b.toNat_lt
      exact .twoBytes (by omega) (by omega) (by omega) (by omega)
  | case3 a =>
      have ha := a.toNat_lt
      exact .oneByte (by omega) (by omega) (by omega)
  | case4 => exact .nil

/-- Every canonical text is written for some bytes. -/
theorem Canonical.exists_bytes {cs : List Char} (canonical : Canonical cs) :
    ∃ bytes, cs = (sextets bytes).map Alphabet.standard.symbol ++ padding bytes.length := by
  induction canonical with
  | nil => exact ⟨[], rfl⟩
  | @oneByte a b ha hb unused =>
      have spelt : sextets (octets [a, b]) = [a, b] :=
        sextets_octets (by simp [ha, hb]) (by simpa [tailBitsZero] using unused) (by simp)
      exact ⟨octets [a, b], by rw [spelt]; rfl⟩
  | @twoBytes a b c ha hb hc unused =>
      have spelt : sextets (octets [a, b, c]) = [a, b, c] :=
        sextets_octets (by simp [ha, hb, hc]) (by simpa [tailBitsZero] using unused) (by simp)
      exact ⟨octets [a, b, c], by rw [spelt]; rfl⟩
  | @group a b c d rest ha hb hc hd others ih =>
      obtain ⟨bytes, rfl⟩ := ih
      have spelt : sextets (octets [a, b, c, d]) = [a, b, c, d] :=
        sextets_octets (by simp [ha, hb, hc, hd]) rfl (by simp)
      have joined : sextets (octets [a, b, c, d] ++ bytes) =
          sextets (octets [a, b, c, d]) ++ sextets bytes := rfl
      have length : (octets [a, b, c, d] ++ bytes).length = bytes.length + 3 := rfl
      exact ⟨octets [a, b, c, d] ++ bytes, by rw [joined, spelt, length, padding_add_three]; rfl⟩

/-- The texts that are read as bytes are those in canonical form. -/
theorem canonical_iff {text : String} :
    Canonical text.toList ↔ ∃ bytes, decode text = .ok bytes := by
  simp only [decode_ok_iff]
  constructor
  · intro canonical
    obtain ⟨bytes, written⟩ := canonical.exists_bytes
    exact ⟨bytes, by rw [encode, ← written, String.ofList_toList]⟩
  · rintro ⟨bytes, rfl⟩
    exact canonical_encode bytes

end Base64

end Keyscan.Text
