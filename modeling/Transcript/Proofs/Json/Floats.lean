import Transcript.Proofs.Decimal.Scientific
import Transcript.Proofs.Decimal.Shortest
import Transcript.Proofs.Json.Replay

namespace Transcript

namespace Decimal

/-- Characters, without a sign, that are read as a float. -/
def ReadsAs (chars : List Char) (number : Float) : Prop :=
  ∃ numeral : Numeral, numeral.IsReal ∧ numeral.sign = none ∧ chars = numeral.spelled 'e' ∧
    numeral.toFloat = number

namespace Layout

variable {layout : Layout} {decimal : Scaled} (narrow : layout.plainBelow ≤ 16)
include narrow

/-- A decimal is read as the magnitude that it rounds to. -/
theorem readsAs_chars {magnitude : Binary} (canonical : magnitude.IsCanonical)
    (covers : magnitude.Covers decimal.value) :
    ReadsAs (layout.chars decimal) (canonical.toFloat false) := by
  obtain ⟨numeral, zeros, isReal, unsigned, chars, read⟩ := chars_spelled narrow decimal
  refine ⟨numeral, isReal, unsigned, chars, read.trans (nearest_eq canonical ?_)⟩
  have some : decimal.digits ≠ 0 := (digits_pos canonical covers).ne'
  have exponent : decimal.leading - (((Nat.toDigits 10 decimal.digits).length : Int) - 1) - zeros =
      decimal.exponent - zeros := by
    rw [Scaled.leading, if_neg some]
    omega
  have value : ((decimal.digits * 10 ^ zeros : Nat) : ℚ) * 10 ^ (decimal.exponent - zeros) =
      decimal.value := by
    rw [zpow_sub₀ (by norm_num), zpow_natCast, Scaled.value]
    push_cast
    field_simp
  rw [exponent, value]
  exact covers

theorem readsAs_zero : ReadsAs (layout.chars ⟨0, 0⟩) 0.0 := by
  obtain ⟨numeral, zeros, isReal, unsigned, chars, read⟩ := chars_spelled narrow ⟨0, 0⟩
  refine ⟨numeral, isReal, unsigned, chars, read.trans ?_⟩
  rw [Nat.zero_mul]
  rfl

/-- The characters of a finite float, without its sign, are read as it is without its sign. -/
theorem readsAs_shortest {number : Float} {negative : Bool} {magnitude : Binary}
    (kind : Kind.ofFloat number = .finite negative magnitude) :
    ∃ size, ReadsAs (layout.chars magnitude.shortest) size ∧
      (if negative then -size else size) = number := by
  by_cases zero : magnitude.m = 0
  · have chars : magnitude.shortest = ⟨0, 0⟩ := if_pos zero
    exact ⟨0.0, chars ▸ readsAs_zero narrow, (eq_zero_of_kind kind zero).symm⟩
  · have positive := Nat.pos_of_ne_zero zero
    obtain ⟨canonical, packed⟩ := eq_pack_of_kind kind positive
    refine ⟨_, readsAs_chars narrow canonical (Binary.covers_shortest positive), ?_⟩
    rw [packed, ← Binary.IsCanonical.toFloat]
    cases negative with
    | true => exact canonical.neg_toFloat false
    | false => rfl

end Layout

end Decimal

namespace Json

theorem word?_signed {chars : List Char} {number : Float} (reads : Decimal.ReadsAs chars number)
    (negative : Bool) :
    word? (if negative then '-' :: chars else chars) =
      some (.float (if negative then -number else number)) := by
  obtain ⟨numeral, isReal, unsigned, rfl, rfl⟩ := reads
  obtain ⟨signed, ⟨standard, real, short⟩, same, value⟩ := isReal.signed unsigned negative
  have within : signed.whole.length ≤ Decimal.integerLimit := Nat.le_trans short (by decide)
  have document : signed.document = .float signed.toFloat := by
    rcases real with fraction | exponent
    · simp [Decimal.Numeral.document, fraction]
    · simp [Decimal.Numeral.document, exponent]
  rw [same, word?_of_number? (number?_spelled standard within (.inl rfl)), document, value]

namespace Layout

/-- A finite float is read as it is. -/
theorem word?_floatChars (layout : Layout) (narrow : layout.number.plainBelow ≤ 16) {number : Float}
    (finite : Decimal.isFinite number = true) :
    word? (layout.floatChars number) = some (.float number) := by
  unfold Decimal.isFinite at finite
  cases kind : Decimal.Kind.ofFloat number with
  | infinite | nan =>
    rw [kind] at finite
    cases finite
  | finite negative magnitude =>
    obtain ⟨size, reads, rfl⟩ := Decimal.Layout.readsAs_shortest narrow kind
    rw [floatChars_finite _ kind]
    exact word?_signed reads negative

theorem givesBack_float (layout : Layout) (narrow : layout.number.plainBelow ≤ 16) {number : Float}
    (finite : Decimal.isFinite number = true) : layout.GivesBack (.float number) := by
  refine ⟨⟨by decide, .inr finite⟩, ?_⟩
  rw [asRead, layout.word?_floatChars narrow finite, Option.getD_some]

/-- A finite float comes back from a stored document. -/
theorem stored_givesBack_float {number : Float} (finite : Decimal.isFinite number = true) :
    Layout.stored.GivesBack (.float number) :=
  Layout.stored.givesBack_float stored_isStandard.narrow finite

theorem payload_isStandard : Layout.payload.IsStandard := ⟨rfl, by decide⟩

theorem givesBack_payload {number : Float} (back : Layout.stored.GivesBack (.float number)) :
    Layout.payload.GivesBack (.float number) :=
  Layout.payload.givesBack_float payload_isStandard.narrow back.finite

mutual
/-- What comes back from a stored document comes back from a payload. -/
theorem leaves_payload : (document : Json) → Leaves Layout.stored.GivesBack document →
    Leaves Layout.payload.GivesBack document
  | .null, back | .bool _, back | .int _, back | .str _, back => back
  | .float _, back => givesBack_payload back
  | .arr items, back => itemLeaves_payload items back
  | .obj entries, back => entryLeaves_payload entries back

theorem itemLeaves_payload : (items : List Json) → ItemLeaves Layout.stored.GivesBack items →
    ItemLeaves Layout.payload.GivesBack items
  | [], _ => trivial
  | item :: rest, back => ⟨leaves_payload item back.1, itemLeaves_payload rest back.2⟩

theorem entryLeaves_payload : (entries : List (String × Json)) →
    EntryLeaves Layout.stored.GivesBack entries → EntryLeaves Layout.payload.GivesBack entries
  | [], _ => trivial
  | (_, item) :: rest, back => ⟨leaves_payload item back.1, entryLeaves_payload rest back.2⟩
end

end Layout

end Json

end Transcript
