import Transcript.Decimal.Numeral
import Transcript.Proofs.Decimal.Packing

namespace Transcript.Decimal

open Float.Model
open Float.Model.UnpackedFloat

namespace Binary

variable {magnitude : Binary}

def IsCanonical.toFloat (canonical : magnitude.IsCanonical) (negative : Bool) : Float :=
  .ofModel (.pack (.finite (signOf negative) magnitude.m magnitude.q canonical.positive))

theorem IsCanonical.unpack_toFloat (canonical : magnitude.IsCanonical) (negative : Bool) :
    (canonical.toFloat negative).toModel.unpack =
      .finite (signOf negative) magnitude.m magnitude.q canonical.positive :=
  canonical.unpack_pack negative

theorem IsCanonical.neg_toFloat (canonical : magnitude.IsCanonical) (negative : Bool) :
    -canonical.toFloat negative = canonical.toFloat !negative := by
  change Float.ofModel (.pack (canonical.toFloat negative).toModel.unpack.neg) = _
  rw [canonical.unpack_toFloat, UnpackedFloat.neg, neg_signOf]
  rfl

/-- The magnitude of a natural that has at most as many digits as fit. -/
def ofNat (natural : Nat) : Binary where
  m := natural * 2 ^ (52 - natural.log2)
  q := natural.log2 - 52
  narrowBelow := natural * 2 ^ (52 - natural.log2) == 2 ^ 52

variable {natural : Nat}

theorem le_ofNat (positive : 0 < natural) (short : natural < 2 ^ 53) :
    2 ^ 52 ≤ (ofNat natural).m := by
  have bits := (Nat.log2_lt positive.ne').mpr short
  calc
    2 ^ 52 = 2 ^ natural.log2 * 2 ^ (52 - natural.log2) := by rw [← pow_add]; congr 1; omega
    _ ≤ natural * 2 ^ (52 - natural.log2) :=
      Nat.mul_le_mul_right _ (Nat.log2_self_le positive.ne')

theorem ofNat_isCanonical (positive : 0 < natural) (short : natural < 2 ^ 53) :
    (ofNat natural).IsCanonical where
  positive := Nat.mul_pos positive (Nat.two_pow_pos _)
  short := by
    have bits := (Nat.log2_lt positive.ne').mpr short
    calc
      natural * 2 ^ (52 - natural.log2) < 2 ^ (natural.log2 + 1) * 2 ^ (52 - natural.log2) :=
        Nat.mul_lt_mul_of_pos_right Nat.lt_log2_self (Nat.two_pow_pos _)
      _ = 2 ^ 53 := by rw [← pow_add]; congr 1; omega
  least := show -1074 ≤ (natural.log2 : Int) - 52 by omega
  most := by
    have bits := (Nat.log2_lt positive.ne').mpr short
    show (natural.log2 : Int) - 52 ≤ 971
    omega
  full := .inl (le_ofNat positive short)
  narrow := by
    have beyond : -1074 < (natural.log2 : Int) - 52 := by omega
    simp [ofNat, beyond]

theorem value_ofNat (positive : 0 < natural) (short : natural < 2 ^ 53) :
    ((ofNat natural).m : ℚ) * 2 ^ (ofNat natural).q = natural := by
  have bits := (Nat.log2_lt positive.ne').mpr short
  have power : ((52 - natural.log2 : Nat) : Int) + ((natural.log2 : Int) - 52) = 0 := by omega
  simp only [ofNat]
  rw [Nat.cast_mul, Nat.cast_pow, mul_assoc, Nat.cast_ofNat, ← zpow_natCast,
    ← zpow_add₀ two_ne_zero, power, zpow_zero, mul_one]

theorem value_of_toNat? (whole : magnitude.toNat? = some natural) :
    (magnitude.m : ℚ) * 2 ^ magnitude.q = natural := by
  unfold toNat? at whole
  split at whole
  · rename_i positive
    obtain ⟨places, power⟩ := Int.eq_ofNat_of_zero_le positive
    obtain rfl := Option.some.inj whole
    rw [power, Int.toNat_natCast, zpow_natCast]
    push_cast [Nat.pow_eq]
    rfl
  · rename_i negative
    simp only [Nat.pow_eq] at whole
    split at whole
    · rename_i divides
      obtain rfl := Option.some.inj whole
      obtain ⟨places, power⟩ : ∃ places : Nat, magnitude.q = -places :=
        ⟨(-magnitude.q).toNat, by omega⟩
      rw [power, neg_neg, Int.toNat_natCast] at divides ⊢
      have parts := Nat.div_mul_cancel (Nat.dvd_of_mod_eq_zero divides)
      rw [zpow_neg, zpow_natCast, ← div_eq_mul_inv, div_eq_iff (by positivity)]
      exact_mod_cast parts.symm
    · cases whole

end Binary

theorem toFloat_toUInt64 {natural : Nat} (positive : 0 < natural) (short : natural < 2 ^ 53) :
    natural.toUInt64.toFloat = (Binary.ofNat_isCanonical positive short).toFloat false := by
  have canonical := Binary.ofNat_isCanonical positive short
  have covers : (Binary.ofNat natural).Covers (natural * 2 ^ (0 : Int)) := by
    have self := Binary.Covers.self (Binary.ofNat natural)
    rw [Binary.value_ofNat positive short] at self
    rwa [zpow_zero, mul_one]
  have same : natural.toUInt64.toNat = natural := by
    rw [Nat.toUInt64, UInt64.toNat_ofNat']
    exact Nat.mod_eq_of_lt (short.trans (by decide))
  have order : compare (natural : Int) 0 = .gt := Int.compare_eq_gt.mpr (by omega)
  change Float.ofModel
    (.pack (UnpackedFloat.normalize Format.binary64 natural.toUInt64.toNat 0 .positive)) = _
  rw [same, UnpackedFloat.normalize, order]
  exact congrArg (fun float => Float.ofModel (.pack float)) (round_eq positive canonical covers)

theorem powersOfTen_eq (power : Fin 23) :
    integer? (Float.exactlyRepresentablePowersOfTen[power]) =
      some ((10 ^ power.val : Nat) : Int) := by
  revert power
  decide +kernel

/-- A float that is a positive integer has it for its magnitude. -/
theorem eq_toFloat_of_integer? {number : Float} {natural : Nat}
    (whole : integer? number = some (natural : Int)) (positive : 0 < natural) :
    ∃ (magnitude : Binary) (canonical : magnitude.IsCanonical),
      number = canonical.toFloat false ∧ (magnitude.m : ℚ) * 2 ^ magnitude.q = natural := by
  unfold integer? at whole
  cases kind : Kind.ofFloat number with
  | infinite | nan =>
    rw [kind] at whole
    cases whole
  | finite negative magnitude =>
    rw [kind] at whole
    simp only at whole
    cases found : magnitude.toNat? with
    | none =>
      rw [found] at whole
      cases whole
    | some size => ?_
    rw [found] at whole
    have signed : (if negative then -(size : Int) else size) = natural := Option.some.inj whole
    have unsigned : negative = false ∧ size = natural := by
      cases negative with
      | false => exact ⟨rfl, by simpa using signed⟩
      | true =>
        simp only [if_true] at signed
        omega
    obtain ⟨rfl, rfl⟩ := unsigned
    have value := Binary.value_of_toNat? found
    have some : 0 < magnitude.m := by
      apply Nat.pos_of_ne_zero
      intro none
      rw [none, Nat.cast_zero, zero_mul] at value
      have : (0 : ℚ) < size := by exact_mod_cast positive
      linarith
    obtain ⟨canonical, same⟩ := eq_pack_of_kind kind some
    exact ⟨magnitude, canonical, same, value⟩

section Operations

variable {left right result : Binary}

theorem div_toFloat (isLeft : left.IsCanonical) (isRight : right.IsCanonical)
    (isResult : result.IsCanonical)
    (covers : result.Covers (left.m * 2 ^ left.q / (right.m * 2 ^ right.q))) :
    isLeft.toFloat false / isRight.toFloat false = isResult.toFloat false := by
  change Float.ofModel (.pack (UnpackedFloat.div _ (isLeft.toFloat false).toModel.unpack
    (isRight.toFloat false).toModel.unpack)) = _
  rw [isLeft.unpack_toFloat, isRight.unpack_toFloat, div_eq _ _ isResult covers]
  rfl

theorem mul_toFloat (isLeft : left.IsCanonical) (isRight : right.IsCanonical)
    (long : 2 ^ 52 ≤ left.m * right.m) (isResult : result.IsCanonical)
    (covers : result.Covers (left.m * 2 ^ left.q * (right.m * 2 ^ right.q))) :
    isLeft.toFloat false * isRight.toFloat false = isResult.toFloat false := by
  change Float.ofModel (.pack (UnpackedFloat.mul _ (isLeft.toFloat false).toModel.unpack
    (isRight.toFloat false).toModel.unpack)) = _
  rw [isLeft.unpack_toFloat, isRight.unpack_toFloat, mul_eq _ _ long isResult covers]
  rfl

end Operations

section Reading

variable {magnitude : Binary} {mantissa : Nat} {power : Int}

theorem digits_pos (canonical : magnitude.IsCanonical)
    (covers : magnitude.Covers (mantissa * 10 ^ power)) : 0 < mantissa := by
  apply Nat.pos_of_ne_zero
  rintro rfl
  have low := covers.low canonical
  rw [Nat.cast_zero, zero_mul] at low
  exact absurd (Binary.two_zpow_pos (-1075)) (not_lt.mpr low)

/-- Few digits and a small power of ten are multiplied or divided as floats. -/
theorem ofScientific_few (canonical : magnitude.IsCanonical) {places : Nat} (down : Bool)
    (covers : magnitude.Covers (mantissa * 10 ^ (if down then -(places : Int) else places)))
    (few : mantissa < 2 ^ 53 ∧ places ≤ 22) :
    Float.ofScientific mantissa down places = canonical.toFloat false := by
  have positive := digits_pos canonical covers
  obtain ⟨ten, isTen, table, value⟩ :=
    eq_toFloat_of_integer? (powersOfTen_eq ⟨places, by omega⟩) (Nat.pow_pos (by decide))
  have size := Binary.value_ofNat positive few.1
  have within : places < Float.exactlyRepresentablePowersOfTen.size := Nat.lt_succ_of_le few.2
  have table : Float.exactlyRepresentablePowersOfTen[places] = isTen.toFloat false := table
  rw [Float.ofScientific, dif_pos few, table, toFloat_toUInt64 positive few.1]
  cases down with
  | true =>
    have quotient : ((Binary.ofNat mantissa).m : ℚ) * 2 ^ (Binary.ofNat mantissa).q /
        (ten.m * 2 ^ ten.q) = mantissa * 10 ^ (-(places : Int)) := by
      rw [size, value, zpow_neg, zpow_natCast, ← div_eq_mul_inv]
      push_cast
      rfl
    rw [if_pos rfl, ← quotient] at covers
    exact div_toFloat _ isTen canonical covers
  | false =>
    have product : ((Binary.ofNat mantissa).m : ℚ) * 2 ^ (Binary.ofNat mantissa).q *
        (ten.m * 2 ^ ten.q) = mantissa * 10 ^ (places : Int) := by
      rw [size, value, zpow_natCast]
      push_cast
      rfl
    rw [if_neg Bool.false_ne_true, ← product] at covers
    have long := Nat.mul_le_mul (Binary.le_ofNat positive few.1) isTen.positive
    exact mul_toFloat _ isTen long canonical covers

theorem ten_zpow_le {low high : Int} (order : low ≤ high) : (10 : ℚ) ^ low ≤ 10 ^ high :=
  zpow_le_zpow_right₀ (by norm_num) order

theorem power_lt (canonical : magnitude.IsCanonical)
    (covers : magnitude.Covers (mantissa * 10 ^ power)) : power < 309 := by
  by_contra large
  have some : (1 : ℚ) ≤ mantissa := by exact_mod_cast digits_pos canonical covers
  have beyond : (2 : ℚ) ^ (1024 : Int) ≤ 10 ^ (309 : Int) := by
    have : 2 ^ 1024 ≤ 10 ^ 309 := by decide +kernel
    exact_mod_cast this
  have : (2 : ℚ) ^ (1024 : Int) ≤ mantissa * 10 ^ power := by
    calc
      (2 : ℚ) ^ (1024 : Int) ≤ 10 ^ power := beyond.trans (ten_zpow_le (by omega))
      _ = 1 * 10 ^ power := (one_mul _).symm
      _ ≤ mantissa * 10 ^ power := by gcongr
  exact absurd (covers.high canonical) (not_lt.mpr this)

/-- Neither is it far below zero, unless there are as many digits to make up for it. -/
theorem lt_power (canonical : magnitude.IsCanonical)
    (covers : magnitude.Covers (mantissa * 10 ^ power)) {digits : Nat}
    (size : mantissa ≤ 10 ^ digits) : -324 < power + digits := by
  by_contra small
  have below : (10 : ℚ) ^ (-324 : Int) < 2 ^ (-1075 : Int) := by
    have : 2 ^ 1075 < 10 ^ 324 := by decide +kernel
    rw [zpow_neg, zpow_neg, inv_lt_inv₀ (by positivity) (by positivity)]
    exact_mod_cast this
  have : mantissa * (10 : ℚ) ^ power < 2 ^ (-1075 : Int) := by
    calc
      (mantissa : ℚ) * 10 ^ power ≤ 10 ^ (digits : Int) * 10 ^ power := by
        gcongr
        exact_mod_cast size
      _ = 10 ^ (power + digits) := by rw [add_comm, zpow_add₀ (by norm_num)]
      _ ≤ 10 ^ (-324 : Int) := ten_zpow_le (by omega)
      _ < _ := below
  exact absurd (covers.low canonical) (not_le.mpr this)

/-- A decimal is multiplied out, or divided, with all its digits. -/
theorem unpacked_ofScientific (canonical : magnitude.IsCanonical)
    (covers : magnitude.Covers (mantissa * 10 ^ power)) :
    UnpackedFloat.ofScientific Format.binary64 mantissa power =
      .finite .positive magnitude.m magnitude.q canonical.positive := by
  have positive := digits_pos canonical covers
  have upper := power_lt canonical covers
  have size : mantissa ≤ 10 ^ (mantissa.log2 + 1) :=
    Nat.lt_log2_self.le.trans (Nat.pow_le_pow_left (by decide) _)
  have lower := lt_power canonical covers size
  rw [UnpackedFloat.ofScientific, dif_neg positive.ne']
  have notLarge : ¬ power > 2 ^ Format.binary64.exponentBits := by
    change ¬ power > 2 ^ 11
    omega
  have notSmall : ¬ power < -((2 ^ Format.binary64.exponentBits : Int) + mantissa.log2) := by
    change ¬ power < -((2 ^ 11 : Int) + mantissa.log2)
    omega
  rw [if_neg notLarge, if_neg notSmall]
  split
  · rename_i up
    obtain ⟨places, rfl⟩ := Int.eq_ofNat_of_zero_le up
    have value : ((mantissa <<< 53 : Nat) : ℚ) * 2 ^ (-(53 : Nat) : Int) *
        ((10 ^ places : Nat) * 2 ^ (0 : Int)) = mantissa * 10 ^ (places : Int) := by
      rw [Nat.shiftLeft_eq, zpow_zero, mul_one, zpow_natCast, zpow_neg, zpow_natCast]
      push_cast
      field_simp
      norm_num
    rw [← value] at covers
    have long : 2 ^ 52 ≤ mantissa <<< 53 * 10 ^ places := by
      rw [Nat.shiftLeft_eq]
      calc
        2 ^ 52 ≤ 1 * 2 ^ 53 * 1 := by decide
        _ ≤ mantissa * 2 ^ 53 * 10 ^ places := by
          gcongr
          · exact positive
          · exact Nat.one_le_pow _ _ (by decide)
    exact mul_eq _ _ long canonical covers
  · rename_i down
    have places : ((-power).toNat : Int) = -power := Int.toNat_of_nonneg (by omega)
    have value : (mantissa : ℚ) * 2 ^ (0 : Int) / ((10 ^ (-power).toNat : Nat) * 2 ^ (0 : Int)) =
        mantissa * 10 ^ power := by
      rw [zpow_zero, mul_one, mul_one, Nat.cast_pow, Nat.cast_ofNat, ← zpow_natCast, places,
        zpow_neg, div_inv_eq_mul]
    rw [← value] at covers
    exact div_eq _ _ canonical covers

theorem ofScientific_eq (canonical : magnitude.IsCanonical) {places : Nat} (down : Bool)
    (covers : magnitude.Covers (mantissa * 10 ^ (if down then -(places : Int) else places))) :
    Float.ofScientific mantissa down places = canonical.toFloat false := by
  by_cases few : mantissa < 2 ^ 53 ∧ places ≤ 22
  · exact ofScientific_few canonical down covers few
  · have power : (if down then Int.negOfNat places else Int.ofNat places) =
        if down then -(places : Int) else places := by
      cases down with
      | true => exact Int.negOfNat_eq
      | false => rfl
    rw [Float.ofScientific, dif_neg few, power]
    exact congrArg (fun float => Float.ofModel (.pack float))
      (unpacked_ofScientific canonical covers)

/-- A decimal is read as the float with the magnitude that it rounds to. -/
theorem nearest_eq (canonical : magnitude.IsCanonical)
    (covers : magnitude.Covers (mantissa * 10 ^ power)) :
    nearest mantissa power = canonical.toFloat false := by
  have positive := digits_pos canonical covers
  have upper := power_lt canonical covers
  have size : mantissa ≤ 10 ^ (mantissa.log2 / 3 + 1) := by
    calc
      mantissa ≤ 2 ^ (mantissa.log2 + 1) := Nat.lt_log2_self.le
      _ ≤ 2 ^ (3 * (mantissa.log2 / 3 + 1)) := Nat.pow_le_pow_right (by decide) (by omega)
      _ = 8 ^ (mantissa.log2 / 3 + 1) := pow_mul 2 3 _
      _ ≤ _ := Nat.pow_le_pow_left (by decide) _
  have lower := lt_power canonical covers size
  have inRange : (mantissa = 0 || decide (power + (mantissa.log2 / 3 : Nat) < -420)) = false := by
    have far : ¬ power + (mantissa.log2 / 3 : Nat) < -420 := by omega
    exact Bool.or_eq_false_iff.mpr ⟨decide_eq_false positive.ne', decide_eq_false far⟩
  have signed : (if decide (power < 0) then -(power.natAbs : Int) else power.natAbs) = power := by
    split
    · rename_i negative
      have := of_decide_eq_true negative
      omega
    · rename_i positive
      have := of_decide_eq_false (Bool.eq_false_iff.mpr positive)
      omega
  rw [← signed] at covers
  unfold nearest
  simp only [inRange]
  rw [if_neg Bool.false_ne_true, if_neg (by omega)]
  exact ofScientific_eq canonical _ covers

end Reading

end Transcript.Decimal
