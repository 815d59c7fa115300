import Mathlib.Tactic.SplitIfs
import Keyscan.Proofs.Text.PaddedBase64

/-!
Texts are ordered as their UTF-8 bytes are. A greater character has greater bytes, whatever stands
behind either of them, because the first byte tells the number of bytes and the others hold the bits
of the character from the highest down (`utf8EncodeChar_lex`).
-/

set_option autoImplicit false

namespace Keyscan.Text

/-- The bytes of one text come before those of another: the first byte that differs is less, or there
are no more bytes. -/
def BytesBefore (s t : String) : Prop := List.Lex (· < ·) (utf8Bytes s) (utf8Bytes t)

/-- The bytes of a text are those of its characters, one after the other. -/
theorem utf8Bytes_eq (s : String) : utf8Bytes s = s.toList.flatMap String.utf8EncodeChar := by
  have bytes (cs : List Char) :
      utf8Bytes (String.ofList cs) = cs.flatMap String.utf8EncodeChar := by
    rw [utf8Bytes, String.toByteArray_ofList]
    induction cs with
    | nil => rfl
    | cons c cs ih =>
        rw [List.utf8Encode_cons, ByteArray.toList_data_append, ih, List.utf8Encode_singleton,
          List.data_toByteArray, List.flatMap_cons]
  rw [← bytes, String.ofList_toList]

/-- The bytes of a smaller character come first, whatever stands behind. -/
theorem utf8EncodeChar_lex {c d : Char} (less : c < d) (rest more : List UInt8) :
    List.Lex (· < ·) (String.utf8EncodeChar c ++ rest) (String.utf8EncodeChar d ++ more) := by
  have order : c.val.toNat < d.val.toNat := UInt32.lt_iff_toNat_lt.1 (Char.lt_def.1 less)
  have limit : d.val.toNat < 0x110000 := by
    rcases d.valid with low | ⟨-, high⟩
    · exact Nat.lt_trans low (by decide)
    · exact high
  simp only [String.utf8EncodeChar]
  generalize c.val.toNat = m at order
  generalize d.val.toNat = n at order limit
  have sextets (v : Nat) : v / 4096 = v / 64 / 64 ∧ v / 262144 = v / 64 / 64 / 64 := by omega
  rw [(sextets m).1, (sextets m).2, (sextets n).1, (sextets n).2]
  -- Each character has one to four bytes, so there are sixteen cases of plain arithmetic.
  split_ifs <;>
    simp only [List.cons_append, List.nil_append, List.cons_lex_cons_iff, UInt8.lt_iff_toNat_lt,
      ← UInt8.toNat_inj, UInt8.toNat_ofNat'] <;>
    omega

theorem lex_append_left (front : List UInt8) {rest more : List UInt8}
    (before : List.Lex (· < ·) rest more) : List.Lex (· < ·) (front ++ rest) (front ++ more) := by
  induction front with
  | nil => exact before
  | cons b front ih => exact .cons ih

/-- The bytes of lists of characters are ordered as the lists are. -/
theorem flatMap_utf8EncodeChar_lex {cs ds : List Char} (before : List.Lex (· < ·) cs ds) :
    List.Lex (· < ·) (cs.flatMap String.utf8EncodeChar) (ds.flatMap String.utf8EncodeChar) := by
  induction before with
  | @nil d ds =>
      obtain ⟨b, rest, begins⟩ := List.exists_cons_of_ne_nil (String.utf8EncodeChar_ne_nil)
      rw [List.flatMap_cons, begins]
      exact .nil
  | cons _ ih => exact lex_append_left _ ih
  | rel less => exact utf8EncodeChar_lex less _ _

/-- The order of texts is the order of their bytes. -/
theorem bytesBefore_iff {s t : String} : BytesBefore s t ↔ s < t := by
  have forwards {s t : String} (less : s < t) : BytesBefore s t := by
    rw [BytesBefore, utf8Bytes_eq, utf8Bytes_eq]
    exact flatMap_utf8EncodeChar_lex (String.lt_iff.1 less)
  refine ⟨fun before => Decidable.byContradiction fun after => ?_, forwards⟩
  by_cases back : t < s
  · exact List.lex_asymm UInt8.lt_asymm before (forwards back)
  · obtain rfl := String.le_antisymm (String.not_lt.1 back) (String.not_lt.1 after)
    exact List.lex_irrefl UInt8.lt_irrefl _ before

end Keyscan.Text
