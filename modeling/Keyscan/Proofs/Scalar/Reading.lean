import Keyscan.Proofs.Scalar.Exact
import Keyscan.Row

/-!
What a value that was read has to do with the attribute that it was read from (`Reading`): it is null
where that is allowed and there is nothing, the default of its kind where there is nothing and null is
not allowed, and of its kind otherwise, from a payload that the kind is read from. No payload is taken
for another. A value can therefore be extracted as its kind, and as no other.
-/

set_option autoImplicit false

namespace Keyscan

namespace ScalarKind

/-- Whether a kind is read from the payload of an attribute. -/
def readsFrom : ScalarKind → Attribute → Bool
  | .string, .string _ | .uuid, .string _ => true
  | .bool, .bool _ => true
  | .integer _, .number _ | .real _, .number _ | .decimal, .number _ => true
  | .dateTime, .string _ | .dateTime, .number _ => true
  | .dateTimeOffset, .string _ | .dateTimeOffset, .number _ => true
  | _, _ => false

/-- The value that stands in where there is none: the empty text, false, and the beginning of 1970. -/
def default? : ScalarKind → Option ScalarValue
  | .string => some (.string "")
  | .bool => some (.bool false)
  | .dateTime => some (.dateTime .epoch)
  | .dateTimeOffset => some (.dateTimeOffset .epoch .utc)
  | _ => none

theorem kind?_of_default? {kind : ScalarKind} {v : ScalarValue}
    (default : kind.default? = some v) : v.kind? = some kind := by
  cases kind <;> cases default <;> rfl

end ScalarKind

namespace Codec

/-- What a value that was read for a property owes to the attribute. -/
inductive Reading (kind : ScalarKind) (nullable : Bool) : Option Attribute → ScalarValue → Prop
  /-- There is nothing, which is allowed. -/
  | null {a : Option Attribute} (allowed : nullable = true) (absent : a = none ∨ a = some .null) :
      Reading kind nullable a .null
  /-- There is a payload that suits the kind. -/
  | payload {b : Attribute} {v : ScalarValue} (suits : kind.readsFrom b = true)
      (ofKind : v.kind? = some kind) : Reading kind nullable (some b) v
  /-- There is nothing, and the kind has a value for that. -/
  | default {a : Option Attribute} {v : ScalarValue} (required : nullable = false)
      (absent : a = none ∨ a = some .null) (default : kind.default? = some v)
      (ofKind : v.kind? = some kind) : Reading kind nullable a v

/-! ### Each kind -/

theorem isAbsent_iff {a : Option Attribute} : isAbsent a = true ↔ a = none ∨ a = some .null := by
  cases a with
  | none => simp [isAbsent]
  | some b => cases b <;> simp [isAbsent]

/-- Where there is nothing, a kind without a default cannot be read. -/
theorem readRequired_absent (kind : ScalarKind) {a : Option Attribute}
    (absent : a = none ∨ a = some .null) :
    readRequired kind a = kind.default?.elim (missing kind) .ok := by
  rcases absent with rfl | rfl <;> cases kind <;> rfl

/-- A payload that does not suit the kind is refused, and not taken for one that does. -/
theorem readRequired_unsuited {kind : ScalarKind} {b : Attribute}
    (present : isAbsent (some b) = false) (unsuited : kind.readsFrom b = false) :
    readRequired kind (some b) = wrongShape kind b := by
  cases b with
  | null => cases present
  | string s =>
      cases kind with
      | string | uuid | dateTime | dateTimeOffset => cases unsuited
      | _ => rfl
  | number text =>
      cases kind with
      | integer _ | real _ | decimal | dateTime | dateTimeOffset => cases unsuited
      | _ => rfl
  | bool b =>
      cases kind with
      | bool => cases unsuited
      | _ => rfl
  | binary bytes => cases kind <;> rfl
  | list items => cases kind <;> rfl
  | map entries => cases kind <;> rfl

theorem kind?_of_readInteger {k : IntegerKind} {text : String} {v : ScalarValue}
    (read : readInteger k text = .ok v) : v.kind? = some (.integer k) := by
  rw [readInteger] at read
  split at read
  · split at read
    · cases read
      rfl
    · cases read
  · split at read <;> cases read

theorem kind?_of_readReal {f : FloatFormat} {text : String} {v : ScalarValue}
    (read : readReal f text = .ok v) : v.kind? = some (.real f) := by
  rw [readReal] at read
  split at read
  · cases read
  · split at read
    · cases read
      rfl
    · cases read

theorem kind?_of_readDecimal {text : String} {v : ScalarValue}
    (read : readDecimal text = .ok v) : v.kind? = some .decimal := by
  rw [readDecimal] at read
  split at read
  · cases read
    rfl
  · cases read

theorem kind?_of_readUuid {a : Option Attribute} {v : ScalarValue} (read : readUuid a = .ok v) :
    v.kind? = some .uuid := by
  unfold readUuid at read
  split at read
  · split at read
    · cases read
      rfl
    · cases read
  · cases read
  · cases read
  · cases read

/-- The numeric kinds differ only in what they make of the text. -/
theorem kind?_of_number {kind : ScalarKind} {convert : String → Except ConversionError ScalarValue}
    (ofKind : ∀ {text v}, convert text = .ok v → v.kind? = some kind) {a : Option Attribute}
    {v : ScalarValue} (read : (numberText kind a).bind convert = .ok v) : v.kind? = some kind := by
  cases number : numberText kind a with
  | error e =>
      rw [number] at read
      cases read
  | ok text =>
      rw [number] at read
      exact ofKind read

/-- What is read for a kind is of the kind. -/
theorem kind?_of_readRequired {kind : ScalarKind} {a : Option Attribute} {v : ScalarValue}
    (read : readRequired kind a = .ok v) : v.kind? = some kind := by
  cases kind with
  | string =>
      simp only [readRequired] at read
      split at read <;> cases read <;> rfl
  | bool =>
      simp only [readRequired] at read
      split at read <;> cases read <;> rfl
  | integer k => exact kind?_of_number kind?_of_readInteger read
  | real f => exact kind?_of_number kind?_of_readReal read
  | decimal => exact kind?_of_number kind?_of_readDecimal read
  | uuid => exact kind?_of_readUuid read
  | dateTime =>
      rw [readRequired] at read
      cases instant : readInstant .dateTime a <;> rw [instant] at read <;> cases read
      rfl
  | dateTimeOffset =>
      rw [readRequired] at read
      cases instant : readInstant .dateTimeOffset a <;> rw [instant] at read <;> cases read
      rfl

/-- Every value that is read is owed to the attribute. -/
theorem reading_of_read {kind : ScalarKind} {nullable : Bool} {a : Option Attribute}
    {v : ScalarValue} (read : Codec.read kind nullable a = .ok v) : Reading kind nullable a v := by
  cases nothing : isAbsent a with
  | true =>
      have absent := isAbsent_iff.1 nothing
      cases nullable with
      | true =>
          rw [Codec.read, nothing, Bool.and_self, if_pos rfl] at read
          cases read
          exact .null rfl absent
      | false =>
          rw [Codec.read, Bool.false_and, if_neg (by decide), readRequired_absent kind absent] at read
          cases default : kind.default? with
          | none =>
              rw [default] at read
              cases read
          | some w =>
              rw [default] at read
              cases read
              exact .default rfl absent default (ScalarKind.kind?_of_default? default)
  | false =>
      rw [Codec.read, nothing, Bool.and_false, if_neg (by decide)] at read
      obtain ⟨b, rfl⟩ : ∃ b, a = some b := by
        cases a with
        | none => cases nothing
        | some b => exact ⟨b, rfl⟩
      cases suits : kind.readsFrom b with
      | true => exact .payload suits (kind?_of_readRequired read)
      | false =>
          rw [readRequired_unsuited nothing suits] at read
          cases read

variable {kind : ScalarKind} {nullable : Bool} {a : Option Attribute} {v : ScalarValue}

/-- A value that is not null is of the kind. -/
theorem Reading.ofKind (reading : Reading kind nullable a v) (nonnull : v ≠ .null) :
    v.kind? = some kind := by
  cases reading with
  | null allowed absent => exact absurd rfl nonnull
  | payload suits ofKind => exact ofKind
  | default required absent default ofKind => exact ofKind

/-- A property that is not nullable has no null. -/
theorem Reading.ne_null (reading : Reading kind false a v) : v ≠ .null := by
  rintro rfl
  cases reading with
  | null allowed absent => cases allowed
  | payload suits ofKind => cases ofKind
  | default required absent default ofKind => cases ofKind

end Codec

/-! ### Extraction -/

namespace ScalarValue

/-- A value of a kind carries what makes it up. -/
theorem exists_as? {v : ScalarValue} {kind : ScalarKind} (ofKind : v.kind? = some kind) :
    ∃ x, v.as? kind = some x ∧ v = ofCarrier kind x := by
  cases v <;> cases ofKind
  case integer k n => exact ⟨n, dif_pos rfl, rfl⟩
  case real f x => exact ⟨x, dif_pos rfl, rfl⟩
  all_goals exact ⟨_, rfl, rfl⟩

/-- A value carries nothing of another kind. -/
theorem as?_eq_none {v : ScalarValue} {kind : ScalarKind} (other : v.kind? ≠ some kind) :
    v.as? kind = none := by
  cases v <;> cases kind
  case integer.integer k n l => exact dif_neg fun same => other (by rw [kind?, same])
  case real.real f x g => exact dif_neg fun same => other (by rw [kind?, same])
  all_goals first | rfl | exact absurd rfl other

end ScalarValue

namespace Row

variable {row : Row} {name : String} {kind : ScalarKind} {v : ScalarValue}

theorem exists_getAs (here : row.get? name = some v) (ofKind : v.kind? = some kind) :
    ∃ x, row.getAs name kind = .ok x ∧ v = .ofCarrier kind x := by
  obtain ⟨x, carried, made⟩ := ScalarValue.exists_as? ofKind
  refine ⟨x, ?_, made⟩
  rw [getAs, here]
  simp only [carried]

theorem getAs_of_other (here : row.get? name = some v) (other : v.kind? ≠ some kind) :
    row.getAs name kind = .error (extractionError name kind (.wrongShape v.kindName)) := by
  rw [getAs, here]
  simp only [ScalarValue.as?_eq_none other]

theorem getOptional_null (here : row.get? name = some .null) :
    row.getOptional name kind = .ok none := by
  rw [getOptional, here]

theorem getOptional_of_ne_null (here : row.get? name = some v) (nonnull : v ≠ .null) :
    row.getOptional name kind = (row.getAs name kind).map some := by
  rw [getOptional, here]
  cases v with
  | null => exact absurd rfl nonnull
  | _ => rfl

end Row

end Keyscan
