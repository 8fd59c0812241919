import Transcript.Decimal.Shortest
import Transcript.Proofs.Decimal.Rounding

namespace Transcript.Decimal

def Scaled.value (decimal : Scaled) : ℚ := decimal.digits * 10 ^ decimal.exponent

theorem zpow_mul_toNat {base : ℚ} (some : base ≠ 0) (exponent : Int) :
    base ^ exponent * base ^ (-exponent).toNat = base ^ exponent.toNat := by
  rw [← zpow_natCast, ← zpow_natCast, ← zpow_add₀ some]
  congr 1
  omega

/-- Naturals are compared as the numbers that they stand for. -/
theorem compareScaled_eq (a : Nat) (i : Int) (n : Nat) (j : Int) :
    compareScaled a i n j = compare ((a : ℚ) * 10 ^ i) (n * 2 ^ j) := by
  have positive : (0 : ℚ) < 10 ^ (-i).toNat * 2 ^ (-j).toNat := by positivity
  have left : (a : ℚ) * 10 ^ i * (10 ^ (-i).toNat * 2 ^ (-j).toNat) =
      (a * 10 ^ i.toNat * 2 ^ (-j).toNat : Nat) := by
    push_cast
    rw [← zpow_mul_toNat (by norm_num) i]
    ring
  have right : (n : ℚ) * 2 ^ j * (10 ^ (-i).toNat * 2 ^ (-j).toNat) =
      (n * 2 ^ j.toNat * 10 ^ (-i).toNat : Nat) := by
    push_cast
    rw [← zpow_mul_toNat (by norm_num) j]
    ring
  unfold compareScaled
  simp only [Nat.pow_eq]
  rcases lt_trichotomy ((a : ℚ) * 10 ^ i) (n * 2 ^ j) with less | same | more
  · rw [compare_lt_iff_lt.mpr less]
    rw [← mul_lt_mul_iff_of_pos_right positive, left, right] at less
    exact Nat.compare_eq_lt.mpr (by exact_mod_cast less)
  · rw [compare_eq_iff_eq.mpr same]
    rw [← mul_left_inj' positive.ne', left, right] at same
    exact Nat.compare_eq_eq.mpr (by exact_mod_cast same)
  · rw [compare_gt_iff_gt.mpr more]
    rw [← mul_lt_mul_iff_of_pos_right positive, left, right] at more
    exact Nat.compare_eq_gt.mpr (by exact_mod_cast more)

namespace Binary

variable {magnitude : Binary} {decimal : Scaled}

theorem quarter_zpow (n : Nat) (exponent : Int) :
    (n : ℚ) * 2 ^ (exponent - 2) = n / 4 * 2 ^ exponent := by
  rw [zpow_sub₀ two_ne_zero]
  norm_num
  ring

def lowEnd (magnitude : Binary) : Nat :=
  if magnitude.narrowBelow then 4 * magnitude.m - 1 else 4 * magnitude.m - 2

theorem lowEnd_eq (positive : 0 < magnitude.m) :
    (magnitude.lowEnd : ℚ) / 4 = magnitude.m - if magnitude.narrowBelow then 1 / 4 else 1 / 2 := by
  unfold lowEnd
  split
  · rw [Nat.cast_sub (by omega)]
    push_cast
    ring
  · rw [Nat.cast_sub (by omega)]
    push_cast
    ring

/-- What is said to read back rounds to the magnitude. -/
theorem covers_of_readsBack (positive : 0 < magnitude.m)
    (back : magnitude.readsBack decimal = true) : magnitude.Covers decimal.value := by
  have unit := two_zpow_pos magnitude.q
  have low := lowEnd_eq positive
  have high : ((4 * magnitude.m + 2 : Nat) : ℚ) / 4 = magnitude.m + 1 / 2 := by
    push_cast
    ring
  unfold readsBack at back
  rw [← lowEnd] at back
  simp only [compareScaled_eq, quarter_zpow, low, high, Bool.and_eq_true,
    Bool.or_eq_true, beq_iff_eq, compare_gt_iff_gt, compare_lt_iff_lt, compare_eq_iff_eq,
    ← lt_div_iff₀ unit, ← div_lt_iff₀ unit, ← div_eq_iff unit.ne'] at back
  obtain ⟨above, below⟩ := back
  unfold Scaled.value
  generalize (decimal.digits : ℚ) * 10 ^ decimal.exponent = number at above below ⊢
  generalize ratio : number / 2 ^ magnitude.q = t at above below
  have inner : (if magnitude.narrowBelow then (1 : ℚ) / 4 else 1 / 2) ≤ 1 / 2 := by
    split <;> norm_num
  have least : (magnitude.m : ℚ) - (if magnitude.narrowBelow then 1 / 4 else 1 / 2) ≤ t := by
    rcases above with above | ⟨_, above⟩ <;> linarith
  constructor
  case nearest =>
    rw [ratio]
    constructor
    case above => linarith
    case below => rcases below with below | ⟨_, below⟩ <;> linarith
    case even =>
      rintro (same | same)
      · rcases above with above | ⟨even, _⟩
        · linarith
        · exact even
      · rcases below with below | ⟨even, _⟩
        · linarith
        · exact even
  case narrow =>
    intro narrow
    rw [ratio]
    rwa [if_pos narrow] at least

/-- A decimal on a grid is one that reads back. -/
theorem readsBack_of_onGrid? {g : Int} (found : magnitude.onGrid? g = some decimal) :
    magnitude.readsBack decimal = true := by
  simp only [onGrid?] at found
  split at found
  case h_1 lower upper =>
    split at found
    · exact Option.some.inj found ▸ lower
    · exact Option.some.inj found ▸ upper
    · split at found
      · exact Option.some.inj found ▸ lower
      · exact Option.some.inj found ▸ upper
  case h_2 lower _ => exact Option.some.inj found ▸ lower
  case h_3 _ upper => exact Option.some.inj found ▸ upper
  case h_4 => cases found

theorem value_exact (magnitude : Binary) :
    magnitude.exact.value = magnitude.m * 2 ^ magnitude.q := by
  unfold exact Scaled.value
  split
  · rename_i up
    obtain ⟨places, power⟩ := Int.eq_ofNat_of_zero_le up
    simp only [power, Int.toNat_natCast, Nat.pow_eq, zpow_zero, mul_one, zpow_natCast]
    push_cast
    rfl
  · rename_i down
    obtain ⟨places, power⟩ : ∃ places : Nat, magnitude.q = -places :=
      ⟨(-magnitude.q).toNat, by omega⟩
    simp only [power, neg_neg, Int.toNat_natCast, Nat.pow_eq, zpow_neg, zpow_natCast]
    have ten : (10 : ℚ) ^ places = 5 ^ places * 2 ^ places := by rw [← mul_pow]; norm_num
    push_cast
    rw [ten]
    field_simp

end Binary

theorem value_stripZeros (fuel : Nat) (decimal : Scaled) :
    (stripZeros fuel decimal).value = decimal.value := by
  induction fuel generalizing decimal with
  | zero => rfl
  | succ fuel ih =>
    unfold stripZeros
    split
    · rename_i zero
      rw [ih]
      have tenfold : (decimal.digits : ℚ) = (decimal.digits / 10 : Nat) * 10 := by
        exact_mod_cast (Nat.div_mul_cancel (Nat.dvd_of_mod_eq_zero zero)).symm
      unfold Scaled.value
      rw [tenfold, zpow_add_one₀ (by norm_num)]
      simp only
      ring
    · rfl

/-- The shortest decimal rounds to the magnitude that it was sought for. -/
theorem Binary.covers_shortest {magnitude : Binary} (positive : 0 < magnitude.m) :
    magnitude.Covers magnitude.shortest.value := by
  unfold shortest
  rw [if_neg positive.ne', value_stripZeros]
  cases found : (List.range 17).findSome? fun (n : Nat) =>
      magnitude.onGrid? (magnitude.scale - (n + 1)) with
  | none =>
    rw [Option.getD_none, value_exact]
    exact .self magnitude
  | some decimal =>
    obtain ⟨_, _, onGrid⟩ := List.exists_of_findSome?_eq_some found
    exact covers_of_readsBack positive (readsBack_of_onGrid? onGrid)

end Transcript.Decimal
