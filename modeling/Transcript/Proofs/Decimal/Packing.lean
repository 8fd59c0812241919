import Transcript.Proofs.Decimal.Rounding

namespace Transcript.Decimal

open Float.Model
open Float.Model.UnpackedFloat

def signOf (negative : Bool) : Sign := if negative then .negative else .positive

theorem neg_signOf (negative : Bool) : -signOf negative = signOf !negative := by
  cases negative <;> rfl

theorem toNat_signOf (negative : Bool) : (signOf negative).toBitVec.toNat = negative.toNat := by
  cases negative <;> rfl

theorem toNat_packComponents (sign : Sign) (exponent : BitVec 11) (fraction : BitVec 52) :
    (packComponents Format.binary64 sign exponent fraction).toNat =
      sign.toBitVec.toNat * 2 ^ 63 + exponent.toNat * 2 ^ 52 + fraction.toNat := by
  change ((sign.toBitVec ++ exponent) ++ fraction).toNat = _
  rw [BitVec.toNat_append, ← Nat.shiftLeft_add_eq_or_of_lt fraction.isLt, BitVec.toNat_append,
    ← Nat.shiftLeft_add_eq_or_of_lt exponent.isLt]
  simp only [Nat.shiftLeft_eq]
  omega

theorem toNat_append_one (fraction : BitVec 52) :
    (1#1 ++ fraction).toNat = 2 ^ 52 + fraction.toNat := by
  rw [BitVec.toNat_append, ← Nat.shiftLeft_add_eq_or_of_lt fraction.isLt]
  rfl

namespace Binary

variable {magnitude : Binary}

def exponentField (magnitude : Binary) : Nat :=
  if 2 ^ 52 ≤ magnitude.m then (magnitude.q + 1075).toNat else 0

theorem IsCanonical.exponentField_lt (canonical : magnitude.IsCanonical) :
    magnitude.exponentField < 2047 := by
  have := canonical.most
  unfold exponentField
  split <;> omega

theorem IsCanonical.pack (canonical : magnitude.IsCanonical) (sign : Sign) :
    pack Format.binary64 (.finite sign magnitude.m magnitude.q canonical.positive) =
      packComponents Format.binary64 sign (BitVec.ofNat 11 magnitude.exponentField)
        (BitVec.ofNat 52 magnitude.m) := by
  have := canonical.least
  have := canonical.most
  have biased : magnitude.q + (Format.binary64.exponentBias : Int) +
      (Format.binary64.mantissaBitsWithoutImplicit : Int) = magnitude.q + 1075 := by
    change magnitude.q + 1023 + 52 = _
    omega
  have fits : ¬ 2 ^ Format.binary64.exponentBits ≤ (magnitude.q + 1075).toNat + 1 := by
    change ¬ 2 ^ 11 ≤ _
    omega
  have width : Format.binary64.mantissaBits = 53 := rfl
  simp only [UnpackedFloat.pack, biased, if_neg fits, width, exponentField]
  by_cases full : 2 ^ 52 ≤ magnitude.m
  · have bits : magnitude.m.log2 + 1 = 53 := by
      have low := (Nat.le_log2 canonical.positive.ne').mpr full
      have high := (Nat.log2_lt canonical.positive.ne').mpr canonical.short
      omega
    rw [if_pos bits, if_pos full]
  · have bits : ¬ magnitude.m.log2 + 1 = 53 := by
      have := (Nat.log2_lt canonical.positive.ne').mpr (Nat.lt_of_not_le full)
      omega
    rw [if_neg bits, if_neg full]

/-- Unpacking undoes packing. -/
theorem IsCanonical.unpack_pack (canonical : magnitude.IsCanonical) (negative : Bool) :
    unpack Format.binary64
        (UnpackedFloat.pack Format.binary64
          (.finite (signOf negative) magnitude.m magnitude.q canonical.positive)) =
      .finite (signOf negative) magnitude.m magnitude.q canonical.positive := by
  have field := canonical.exponentField_lt
  have least := canonical.least
  have short := canonical.short
  have positive := canonical.positive
  have toNat : (BitVec.ofNat 11 magnitude.exponentField).toNat = magnitude.exponentField := by
    rw [BitVec.toNat_ofNat]
    omega
  have finite : BitVec.ofNat 11 magnitude.exponentField ≠ -1#11 := by
    intro same
    have same := congrArg BitVec.toNat same
    rw [toNat] at same
    exact field.ne same
  rw [canonical.pack]
  unfold UnpackedFloat.unpack
  simp only [unpackMantissa_packComponents, unpackExponent_packComponents,
    unpackSign_packComponents, Sign.ofBitVec_toBitVec, if_neg finite, toNat]
  have bias : (Format.binary64.exponentBias : Int) + (52 : Nat) = 1075 := rfl
  rw [bias]
  by_cases full : 2 ^ 52 ≤ magnitude.m
  · have exponent : (magnitude.exponentField : Int) = magnitude.q + 1075 := by
      rw [exponentField, if_pos full]
      omega
    have some : BitVec.ofNat 11 magnitude.exponentField ≠ 0#11 := by
      intro none
      have none := congrArg BitVec.toNat none
      rw [toNat, BitVec.toNat_ofNat] at none
      omega
    rw [if_neg some]
    congr 1
    · rw [toNat_append_one, BitVec.toNat_ofNat]
      omega
    · omega
  · have exponent : magnitude.exponentField = 0 := if_neg full
    have smallest := canonical.full.resolve_left full
    have kept : (BitVec.ofNat 52 magnitude.m).toNat = magnitude.m := by
      rw [BitVec.toNat_ofNat]
      omega
    have some : BitVec.ofNat 52 magnitude.m ≠ 0#52 := by
      intro none
      have none := congrArg BitVec.toNat none
      rw [kept] at none
      exact positive.ne' none
    rw [exponent, if_pos rfl, dif_neg some]
    congr 1
    rw [smallest]
    rfl

/-- The magnitude that two fields spell is one that fields can spell. -/
theorem ofFields_isCanonical {exponent fraction : Nat} (below : exponent < 2047)
    (short : fraction < 2 ^ 52) (some : 0 < (ofFields exponent fraction).m) :
    (ofFields exponent fraction).IsCanonical := by
  unfold ofFields at some ⊢
  by_cases zero : exponent = 0
  · rw [if_pos zero] at some ⊢
    exact {
      positive := some
      short := by simp only; omega
      least := le_rfl
      most := show (-1074 : Int) ≤ 971 by decide
      full := .inr rfl
      narrow := by simp }
  · rw [if_neg zero] at some ⊢
    exact {
      positive := some
      short := by simp only [Nat.pow_eq]; omega
      least := by simp only; omega
      most := by simp only; omega
      full := .inl (Nat.le_add_right _ _)
      narrow := by
        simp only [Nat.pow_eq, Bool.and_eq_true, beq_iff_eq, decide_eq_true_eq]
        omega }

theorem exponentField_ofFields {exponent fraction : Nat} (short : fraction < 2 ^ 52) :
    (ofFields exponent fraction).exponentField = exponent := by
  unfold ofFields exponentField
  by_cases zero : exponent = 0
  · rw [if_pos zero, if_neg (by simp only; omega), zero]
  · rw [if_neg zero, if_pos (show 2 ^ 52 ≤ Nat.pow 2 52 + fraction from Nat.le_add_right _ _)]
    simp only
    omega

theorem mod_ofFields {exponent fraction : Nat} (short : fraction < 2 ^ 52) :
    (ofFields exponent fraction).m % 2 ^ 52 = fraction := by
  unfold ofFields
  split
  · exact Nat.mod_eq_of_lt short
  · simp only [Nat.pow_eq]
    omega

end Binary

theorem kind_ofBits (bits : UInt64) :
    Kind.ofBits bits =
      if bits.toNat / 2 ^ 52 % 2 ^ 11 = 2047 then
        if bits.toNat % 2 ^ 52 = 0 then .infinite (bits.toNat / 2 ^ 63 == 1) else .nan
      else .finite (bits.toNat / 2 ^ 63 == 1)
        (.ofFields (bits.toNat / 2 ^ 52 % 2 ^ 11) (bits.toNat % 2 ^ 52)) := by
  have sign : (bits >>> 63 == 1) = (bits.toNat / 2 ^ 63 == 1) := by
    rw [Bool.eq_iff_iff, beq_iff_eq, beq_iff_eq, ← UInt64.toNat_inj, UInt64.toNat_shiftRight,
      Nat.shiftRight_eq_div_pow]
    rfl
  have exponent : ((bits >>> 52) &&& 0x7FF).toNat = bits.toNat / 2 ^ 52 % 2 ^ 11 := by
    rw [UInt64.toNat_and, UInt64.toNat_shiftRight, Nat.shiftRight_eq_div_pow,
      ← Nat.and_two_pow_sub_one_eq_mod]
    rfl
  have fraction : (bits &&& 0xFFFFFFFFFFFFF).toNat = bits.toNat % 2 ^ 52 := by
    rw [UInt64.toNat_and, ← Nat.and_two_pow_sub_one_eq_mod]
    rfl
  unfold Kind.ofBits
  simp only [sign, exponent, fraction]

/-- The bits of a finite float are its sign and the two fields that spell its magnitude. -/
theorem fields_of_kind {number : Float} {negative : Bool} {magnitude : Binary}
    (kind : Kind.ofFloat number = .finite negative magnitude) :
    ∃ exponent fraction, exponent < 2047 ∧ fraction < 2 ^ 52 ∧
      magnitude = .ofFields exponent fraction ∧
      number.toBits.toNat = negative.toNat * 2 ^ 63 + exponent * 2 ^ 52 + fraction := by
  have bits := number.toBits.toNat_lt
  rw [Kind.ofFloat, kind_ofBits] at kind
  split at kind
  · split at kind <;> cases kind
  rename_i finite
  obtain ⟨sign, spelled⟩ := Kind.finite.inj kind
  have sign : number.toBits.toNat / 2 ^ 63 = negative.toNat := by
    have bit : number.toBits.toNat / 2 ^ 63 = 0 ∨ number.toBits.toNat / 2 ^ 63 = 1 := by omega
    rcases bit with bit | bit <;> rw [bit] at sign ⊢ <;> rw [← sign] <;> rfl
  exact ⟨_, _, by omega, Nat.mod_lt _ (by decide), spelled.symm, by omega⟩

/-- A finite float is the packed form of its sign and magnitude. -/
theorem eq_pack_of_kind {number : Float} {negative : Bool} {magnitude : Binary}
    (kind : Kind.ofFloat number = .finite negative magnitude) (positive : 0 < magnitude.m) :
    ∃ canonical : magnitude.IsCanonical,
      number = .ofModel (.pack
        (.finite (signOf negative) magnitude.m magnitude.q canonical.positive)) := by
  obtain ⟨exponent, fraction, below, short, rfl, bits⟩ := fields_of_kind kind
  have canonical := Binary.ofFields_isCanonical below short positive
  refine ⟨canonical, Float.toBits_inj.mp (UInt64.toNat_inj.mp ?_)⟩
  change _ = (UnpackedFloat.pack Format.binary64 _).toNat
  rw [canonical.pack, toNat_packComponents, BitVec.toNat_ofNat, BitVec.toNat_ofNat,
    Binary.exponentField_ofFields short, Binary.mod_ofFields short, toNat_signOf,
    Nat.mod_eq_of_lt (Nat.lt_trans below (by decide)), bits]

theorem eq_zero_of_kind {number : Float} {negative : Bool} {magnitude : Binary}
    (kind : Kind.ofFloat number = .finite negative magnitude) (zero : magnitude.m = 0) :
    number = if negative then -0.0 else 0.0 := by
  obtain ⟨exponent, fraction, _, _, rfl, bits⟩ := fields_of_kind kind
  have none : exponent = 0 ∧ fraction = 0 := by
    unfold Binary.ofFields at zero
    split at zero
    · exact ⟨by assumption, zero⟩
    · simp only [Nat.pow_eq] at zero
      omega
  obtain ⟨rfl, rfl⟩ := none
  cases negative with
  | false =>
    have none : (0.0 : Float).toBits.toNat = 0 := by decide +kernel
    exact Float.toBits_inj.mp (UInt64.toNat_inj.mp (bits.trans none.symm))
  | true =>
    have one : (-0.0 : Float).toBits.toNat = 2 ^ 63 := by decide +kernel
    exact Float.toBits_inj.mp (UInt64.toNat_inj.mp (bits.trans one.symm))

end Transcript.Decimal
