import Mathlib
import Transcript.Decimal.Binary

/-! Rounding to the nearest magnitude. Numbers are rationals here. Those that round to one
magnitude lie between half way to its neighbours, and the machine's rounding, which keeps two bits
for what it has cut off, gives that magnitude for each of them. -/

namespace Transcript.Decimal

open Float.Model
open Float.Model.UnpackedFloat

/-- A number for which a natural is the nearest one: half way to the next only if it is even. -/
structure Nearest (natural : Nat) (number : ℚ) : Prop where
  above : (natural : ℚ) - 1 / 2 ≤ number
  below : number ≤ natural + 1 / 2
  even : number = (natural : ℚ) - 1 / 2 ∨ number = (natural : ℚ) + 1 / 2 → natural % 2 = 0

/-- The fractions that a round bit and a sticky bit stand for. -/
def IsRest : Bool → Bool → ℚ → Prop
  | false, false, rest => rest = 0
  | false, true, rest => 0 < rest ∧ rest < 1 / 2
  | true, false, rest => rest = 1 / 2
  | true, true, rest => 1 / 2 < rest ∧ rest < 1

theorem IsRest.half {round sticky : Bool} {rest : ℚ} (isRest : IsRest round sticky rest)
    (last : Bool) : IsRest last (round || sticky) ((last.toNat + rest) / 2) := by
  cases last <;> cases round <;> cases sticky <;>
    simp only [IsRest, Bool.or_false, Bool.or_true, Bool.toNat_false, Bool.toNat_true,
      Nat.cast_zero, Nat.cast_one] at isRest ⊢ <;>
    first
    | exact ⟨by linarith, by linarith⟩
    | linarith

/-- The numbers of which a mantissa with its two bits is all that is kept. -/
def Reads (bits : ExtendedMantissa) (number : ℚ) : Prop :=
  IsRest bits.roundBit bits.stickyBit (number - bits.mantissa)

namespace Reads

variable {bits : ExtendedMantissa} {number : ℚ}

theorem exact (mantissa : Nat) : Reads (.ofMantissaAndAccuracy mantissa .exact) mantissa :=
  sub_self _

/-- What a division by a natural leaves. -/
theorem fraction (whole : Nat) {rest divisor : Nat} (proper : rest < divisor) :
    Reads (.ofMantissaAndAccuracy whole (accuracyOfFraction rest divisor))
      (whole + rest / divisor) := by
  have positive : (0 : ℚ) < divisor := by exact_mod_cast Nat.zero_lt_of_lt proper
  have small : (rest : ℚ) / divisor < 1 := by
    rw [div_lt_one positive]
    exact_mod_cast proper
  unfold accuracyOfFraction
  by_cases none : rest = 0
  · rw [if_pos none, none, Nat.cast_zero, zero_div, add_zero]
    exact exact whole
  · have some : (0 : ℚ) < rest / divisor := by
      apply div_pos _ positive
      exact_mod_cast Nat.pos_of_ne_zero none
    rw [if_neg none]
    rcases lt_trichotomy (2 * rest) divisor with less | same | more
    · rw [Nat.compare_eq_lt.mpr less]
      have half : (rest : ℚ) / divisor < 1 / 2 := by
        rw [div_lt_div_iff₀ positive two_pos]
        exact_mod_cast (by omega : rest * 2 < 1 * divisor)
      change IsRest false true (_ - (whole : ℚ))
      rw [add_sub_cancel_left]
      exact ⟨some, half⟩
    · rw [Nat.compare_eq_eq.mpr same]
      have half : (rest : ℚ) / divisor = 1 / 2 := by
        rw [div_eq_div_iff positive.ne' two_ne_zero]
        exact_mod_cast (by omega : rest * 2 = 1 * divisor)
      change IsRest true false (_ - (whole : ℚ))
      rw [add_sub_cancel_left]
      exact half
    · rw [Nat.compare_eq_gt.mpr more]
      have half : 1 / 2 < (rest : ℚ) / divisor := by
        rw [div_lt_div_iff₀ two_pos positive]
        exact_mod_cast (by omega : 1 * divisor < rest * 2)
      change IsRest true true (_ - (whole : ℚ))
      rw [add_sub_cancel_left]
      exact ⟨half, small⟩

theorem floor (reads : Reads bits number) :
    (bits.mantissa : ℚ) ≤ number ∧ number < bits.mantissa + 1 := by
  obtain ⟨mantissa, round, sticky⟩ := bits
  unfold Reads at reads
  cases round <;> cases sticky <;> simp only [IsRest] at reads ⊢ <;> constructor <;> linarith

theorem shiftRightOne (reads : Reads bits number) : Reads bits.shiftRightOne (number / 2) := by
  have last : ((bits.mantissa % 2 != 0).toNat : ℚ) = (bits.mantissa % 2 : Nat) := by
    rcases Nat.mod_two_eq_zero_or_one bits.mantissa with even | odd
    · rw [even]; rfl
    · rw [odd]; rfl
  have halves : (bits.mantissa : ℚ) =
      2 * (bits.mantissa / 2 : Nat) + (bits.mantissa % 2 : Nat) := by
    exact_mod_cast (Nat.div_add_mod bits.mantissa 2).symm
  have half := IsRest.half reads (bits.mantissa % 2 != 0)
  rw [last] at half
  have rest : ((bits.mantissa % 2 : Nat) + (number - bits.mantissa)) / 2 =
      number / 2 - (bits.mantissa / 2 : Nat) := by linarith
  rw [rest] at half
  exact half

theorem shiftRight (reads : Reads bits number) (places : Nat) :
    Reads (bits >>> places) (number / 2 ^ places) := by
  change Reads (places.repeat ExtendedMantissa.shiftRightOne bits) _
  induction places with
  | zero => simpa [Nat.repeat] using reads
  | succ places ih =>
    rw [Nat.repeat, pow_succ, div_mul_eq_div_div]
    exact ih.shiftRightOne

/-- The bits suffice to round to the nearest natural. -/
theorem roundedMantissa {natural : Nat} (reads : Reads bits number)
    (nearest : Nearest natural number) : bits.roundedMantissa = natural := by
  obtain ⟨mantissa, round, sticky⟩ := bits
  obtain ⟨above, below, even⟩ := nearest
  have within : natural = mantissa ∨ natural = mantissa + 1 := by
    obtain ⟨low, high⟩ := reads.floor
    simp only at low high
    have least : (mantissa : ℚ) < natural + 1 := by linarith
    have most : (natural : ℚ) < mantissa + 2 := by linarith
    norm_cast at least most
    omega
  have below_half (under : number < mantissa + 1 / 2) : natural = mantissa := by
    have less : (natural : ℚ) < mantissa + 1 := by linarith
    norm_cast at less
    omega
  cases round <;> cases sticky <;> simp only [Reads, IsRest] at reads
  case false.false => exact (below_half (by linarith)).symm
  case false.true => exact (below_half (by linarith)).symm
  case true.false =>
    -- Half way, the even one of the two is the nearest.
    change mantissa + mantissa % 2 = natural
    rcases within with rfl | rfl
    · have := even (.inr (by linarith))
      omega
    · have := even (.inl (by push_cast; linarith))
      omega
  case true.true =>
    have more : (mantissa : ℚ) < natural := by linarith
    norm_cast at more
    change mantissa + 1 = natural
    omega

end Reads

/-- The exponent that rounding aims at: fifty-three digits are left, or fewer at the least one. -/
def aim (mantissa : Nat) (exponent : Int) : Int := max (mantissa.log2 + exponent - 52) (-1074)

namespace Binary

variable {magnitude : Binary} {number : ℚ}

/-- A magnitude as the fields of a float spell it, other than zero. -/
structure IsCanonical (magnitude : Binary) : Prop where
  positive : 0 < magnitude.m
  short : magnitude.m < 2 ^ 53
  least : -1074 ≤ magnitude.q
  most : magnitude.q ≤ 971
  full : 2 ^ 52 ≤ magnitude.m ∨ magnitude.q = -1074
  narrow : magnitude.narrowBelow = true ↔ magnitude.m = 2 ^ 52 ∧ -1074 < magnitude.q

theorem IsCanonical.aim_eq (canonical : magnitude.IsCanonical) :
    aim magnitude.m magnitude.q = magnitude.q := by
  obtain ⟨positive, short, least, _, full, _⟩ := canonical
  have most : magnitude.m.log2 < 53 := (Nat.log2_lt positive.ne').mpr short
  unfold aim
  rcases full with full | smallest
  · have : 52 ≤ magnitude.m.log2 := (Nat.le_log2 positive.ne').mpr full
    omega
  · omega

/-- The numbers that round to a magnitude. -/
structure Covers (magnitude : Binary) (number : ℚ) : Prop where
  nearest : Nearest magnitude.m (number / 2 ^ magnitude.q)
  narrow : magnitude.narrowBelow = true → (magnitude.m : ℚ) - 1 / 4 ≤ number / 2 ^ magnitude.q

/-- The exponents at which a number has its leading bit in the last place but fifty-two, or at
which every magnitude ends. -/
structure Targets (target : Int) (number : ℚ) : Prop where
  least : -1074 ≤ target
  under : number < 2 ^ (target + 53)
  leads : target = -1074 ∨ (2 : ℚ) ^ (target + 52) ≤ number

theorem two_zpow_pos (exponent : Int) : (0 : ℚ) < 2 ^ exponent := zpow_pos two_pos exponent

theorem two_zpow_lt {low high : Int} : (2 : ℚ) ^ low < 2 ^ high ↔ low < high :=
  zpow_lt_zpow_iff_right₀ one_lt_two

theorem two_zpow_le {low high : Int} : (2 : ℚ) ^ low ≤ 2 ^ high ↔ low ≤ high :=
  zpow_le_zpow_iff_right₀ one_lt_two

theorem two_zpow_shift (target places : Int) (magnitude : Binary) :
    (2 : ℚ) ^ (target + places) = 2 ^ (target - magnitude.q + places) * 2 ^ magnitude.q := by
  rw [← zpow_add₀ two_ne_zero]
  congr 1
  omega

namespace Covers

theorem self (magnitude : Binary) : magnitude.Covers (magnitude.m * 2 ^ magnitude.q) := by
  have ratio : (magnitude.m : ℚ) * 2 ^ magnitude.q / 2 ^ magnitude.q = magnitude.m :=
    mul_div_cancel_right₀ _ (two_zpow_pos _).ne'
  constructor
  case nearest =>
    rw [ratio]
    constructor
    case above => linarith
    case below => linarith
    case even => rintro (same | same) <;> linarith
  case narrow =>
    rw [ratio]
    intro _
    linarith

/-- No number that rounds to a magnitude is so small that it rounds to zero. -/
theorem low (covers : magnitude.Covers number) (canonical : magnitude.IsCanonical) :
    2 ^ (-1075 : Int) ≤ number := by
  have some : (1 : ℚ) ≤ magnitude.m := by exact_mod_cast canonical.positive
  have half : (1 : ℚ) / 2 ≤ number / 2 ^ magnitude.q := by
    have := covers.nearest.above
    linarith
  rw [le_div_iff₀ (two_zpow_pos _)] at half
  have least := canonical.least
  calc
    (2 : ℚ) ^ (-1075 : Int) ≤ 2 ^ (magnitude.q - 1) := two_zpow_le.mpr (by omega)
    _ = 1 / 2 * 2 ^ magnitude.q := by rw [zpow_sub_one₀ two_ne_zero]; ring
    _ ≤ number := half

/-- No number that rounds to a magnitude is so large that it rounds to an infinity. -/
theorem high (covers : magnitude.Covers number) (canonical : magnitude.IsCanonical) :
    number < 2 ^ (1024 : Int) := by
  have short : (magnitude.m : ℚ) + 1 ≤ 2 ^ (53 : Int) := by exact_mod_cast canonical.short
  have below : number / 2 ^ magnitude.q < 2 ^ (53 : Int) := by
    have := covers.nearest.below
    linarith
  rw [div_lt_iff₀ (two_zpow_pos _), ← zpow_add₀ two_ne_zero] at below
  have most := canonical.most
  exact below.trans_le (two_zpow_le.mpr (by omega))

end Covers

namespace Targets

variable {target : Int} (targets : Targets target number) (canonical : magnitude.IsCanonical)
  (covers : magnitude.Covers number)
include targets canonical covers

theorem le_exponent : target ≤ magnitude.q := by
  rcases targets.leads with smallest | leads
  · rw [smallest]
    exact canonical.least
  · rw [two_zpow_shift target 52 magnitude, ← le_div_iff₀ (two_zpow_pos _)] at leads
    have below := covers.nearest.below
    have short : (magnitude.m : ℚ) + 1 ≤ 2 ^ (53 : Int) := by exact_mod_cast canonical.short
    have bound : (2 : ℚ) ^ (target - magnitude.q + 52) < 2 ^ (53 : Int) := by linarith
    have := two_zpow_lt.mp bound
    omega

/-- A number that is put at a smaller exponent than its magnitude has rounds up to the first
magnitude with that exponent. -/
theorem of_lt (less : target < magnitude.q) :
    target = magnitude.q - 1 ∧ magnitude.m = 2 ^ 52 ∧ -1074 < magnitude.q := by
  have least := targets.least
  have beyond : -1074 < magnitude.q := by omega
  have full : 2 ^ 52 ≤ magnitude.m := canonical.full.resolve_right (by omega)
  have under := targets.under
  rw [two_zpow_shift target 53 magnitude, ← div_lt_iff₀ (two_zpow_pos _)] at under
  have first : magnitude.m = 2 ^ 52 := by
    have above := covers.nearest.above
    have bound : (2 : ℚ) ^ (target - magnitude.q + 53) ≤ 2 ^ (52 : Int) :=
      two_zpow_le.mpr (by omega)
    have small : (magnitude.m : ℚ) < 2 ^ (52 : Int) + 1 := by linarith
    have : magnitude.m < 2 ^ 52 + 1 := by exact_mod_cast small
    omega
  have next : target = magnitude.q - 1 := by
    have close := covers.narrow (canonical.narrow.mpr ⟨first, beyond⟩)
    have value : (magnitude.m : ℚ) = 2 ^ (52 : Int) := by exact_mod_cast first
    have half : (2 : ℚ) ^ (51 : Int) < 2 ^ (52 : Int) - 1 / 4 := by norm_num
    have bound : (2 : ℚ) ^ (51 : Int) < 2 ^ (target - magnitude.q + 53) := by linarith
    have := two_zpow_lt.mp bound
    omega
  exact ⟨next, first, beyond⟩

/-- There it rounds to a mantissa that is one digit too long. -/
theorem nearest_of_lt (less : target < magnitude.q) : Nearest (2 ^ 53) (number / 2 ^ target) := by
  obtain ⟨rfl, first, beyond⟩ := targets.of_lt canonical covers less
  have close := covers.narrow (canonical.narrow.mpr ⟨first, beyond⟩)
  rw [first, Nat.cast_pow, Nat.cast_ofNat] at close
  have twice : number / 2 ^ (magnitude.q - 1) = 2 * (number / 2 ^ magnitude.q) := by
    rw [zpow_sub_one₀ two_ne_zero]
    field_simp
  have under : number / 2 ^ (magnitude.q - 1) < 2 ^ 53 := by
    rw [div_lt_iff₀ (two_zpow_pos _), ← zpow_natCast, ← zpow_add₀ two_ne_zero, add_comm]
    exact targets.under
  constructor
  case above =>
    push_cast
    linarith
  case below =>
    push_cast
    linarith
  case even => exact fun _ => rfl

end Targets

end Binary

theorem targetExponent_eq (mantissa : Nat) (exponent : Int) :
    Format.binary64.targetExponent (totalExponent mantissa exponent) = aim mantissa exponent := by
  have least : Format.binary64.minExponent = -1074 := rfl
  have width : (Format.binary64.mantissaBits : Int) = 53 := rfl
  rw [Format.targetExponent, totalExponent, least, width, aim]
  congr 1
  omega

theorem shiftToTargetExponent_eq {mantissa : Nat} {exponent target : Int} (accuracy : Accuracy)
    (aims : aim mantissa exponent = target) (room : exponent ≤ target) :
    shiftToTargetExponent Format.binary64 mantissa exponent accuracy =
      (ExtendedMantissa.ofMantissaAndAccuracy mantissa accuracy >>> (target - exponent).toNat,
        target) := by
  have moved : exponent + ((target - exponent).toNat : Int) = target := by omega
  simp only [shiftToTargetExponent, targetExponent_eq, aims, shiftToExponent, moved]

/-- Rounding is one shift, and a second one when the mantissa has become too long. -/
theorem roundWithAccuracy_of_shifts (sign : Sign) {mantissa rounded final : Nat}
    {exponent target last : Int} {accuracy : Accuracy} {bits again : ExtendedMantissa}
    (shift : shiftToTargetExponent Format.binary64 mantissa exponent accuracy = (bits, target))
    (round : bits.roundedMantissa = rounded)
    (second : shiftToTargetExponent Format.binary64 rounded target .exact = (again, last))
    (ends : again.mantissa = final) (positive : 0 < final) :
    roundWithAccuracy Format.binary64 sign mantissa exponent accuracy =
      .finite sign final last positive := by
  subst ends
  simp only [roundWithAccuracy, shift, round, second]
  exact dif_neg positive.ne'

theorem mantissa_ofMantissaAndAccuracy (mantissa : Nat) (accuracy : Accuracy) :
    (ExtendedMantissa.ofMantissaAndAccuracy mantissa accuracy).mantissa = mantissa := by
  cases accuracy with
  | exact => rfl
  | inexact order => cases order <;> rfl

section Rounding

variable {mantissa : Nat} {exponent : Int} {accuracy : Accuracy} {number : ℚ}
  {magnitude : Binary}

/-- What is read at an exponent that may have to grow is targeted by rounding. -/
theorem targets_of_reads
    (reads : Reads (.ofMantissaAndAccuracy mantissa accuracy) (number / 2 ^ exponent))
    (room : exponent ≤ aim mantissa exponent) :
    Binary.Targets (aim mantissa exponent) number := by
  have unit := Binary.two_zpow_pos exponent
  obtain ⟨low, high⟩ := reads.floor
  rw [mantissa_ofMantissaAndAccuracy] at low high
  rw [le_div_iff₀ unit] at low
  rw [div_lt_iff₀ unit] at high
  unfold aim at room ⊢
  constructor
  case least => omega
  case under =>
    have size : (mantissa : ℚ) + 1 ≤ 2 ^ ((mantissa.log2 : Int) + 1) := by
      exact_mod_cast Nat.lt_log2_self
    calc
      number < (mantissa + 1) * 2 ^ exponent := high
      _ ≤ 2 ^ ((mantissa.log2 : Int) + 1) * 2 ^ exponent := by gcongr
      _ = 2 ^ ((mantissa.log2 : Int) + 1 + exponent) := (zpow_add₀ two_ne_zero _ _).symm
      _ ≤ _ := Binary.two_zpow_le.mpr (by omega)
  case leads =>
    by_cases smallest : max (mantissa.log2 + exponent - 52) (-1074) = -1074
    · exact .inl smallest
    right
    have some : mantissa ≠ 0 := by
      rintro rfl
      simp only [Nat.log2_zero, Nat.cast_zero] at *
      omega
    have size : (2 : ℚ) ^ (mantissa.log2 : Int) ≤ mantissa := by
      exact_mod_cast Nat.log2_self_le some
    calc
      (2 : ℚ) ^ (max (mantissa.log2 + exponent - 52) (-1074) + 52) =
          2 ^ ((mantissa.log2 : Int) + exponent) := by congr 1; omega
      _ = 2 ^ (mantissa.log2 : Int) * 2 ^ exponent := zpow_add₀ two_ne_zero _ _
      _ ≤ mantissa * 2 ^ exponent := by gcongr
      _ ≤ number := low

/-- Rounding gives the magnitude that a number rounds to. -/
theorem roundWithAccuracy_eq (sign : Sign)
    (reads : Reads (.ofMantissaAndAccuracy mantissa accuracy) (number / 2 ^ exponent))
    (room : exponent ≤ aim mantissa exponent)
    (canonical : magnitude.IsCanonical) (covers : magnitude.Covers number) :
    roundWithAccuracy Format.binary64 sign mantissa exponent accuracy =
      .finite sign magnitude.m magnitude.q canonical.positive := by
  have targets := targets_of_reads reads room
  generalize aims : aim mantissa exponent = target at room targets
  have shifted := reads.shiftRight (target - exponent).toNat
  have unit : number / 2 ^ exponent / 2 ^ (target - exponent).toNat = number / 2 ^ target := by
    rw [div_div, ← zpow_natCast, ← zpow_add₀ two_ne_zero, Int.toNat_of_nonneg (by omega)]
    congr 2
    omega
  rw [unit] at shifted
  have shift := shiftToTargetExponent_eq accuracy aims room
  rcases (targets.le_exponent canonical covers).eq_or_lt with rfl | less
  · have rounded := shifted.roundedMantissa covers.nearest
    have second := shiftToTargetExponent_eq .exact canonical.aim_eq le_rfl
    rw [sub_self] at second
    exact roundWithAccuracy_of_shifts sign shift rounded second rfl canonical.positive
  · -- The number lies just below the first magnitude with this exponent.
    have rounded := shifted.roundedMantissa (targets.nearest_of_lt canonical covers less)
    obtain ⟨rfl, first, beyond⟩ := targets.of_lt canonical covers less
    have moves : aim (2 ^ 53) (magnitude.q - 1) = magnitude.q := by
      rw [aim, Nat.log2_two_pow]
      omega
    have second := shiftToTargetExponent_eq .exact moves (by omega)
    rw [sub_sub_cancel] at second
    exact roundWithAccuracy_of_shifts sign shift rounded second first.symm canonical.positive

end Rounding

theorem log2_shiftLeft {natural : Nat} (positive : 0 < natural) (places : Nat) :
    (natural <<< places).log2 = natural.log2 + places := by
  induction places with
  | zero => rfl
  | succ places ih =>
    have some : natural <<< places ≠ 0 := by
      rw [Nat.shiftLeft_eq]
      exact (Nat.mul_pos positive (Nat.two_pow_pos places)).ne'
    rw [Nat.shiftLeft_succ, Nat.log2_two_mul some, ih, Nat.add_assoc]

theorem log2_le_div {natural divisor : Nat} (some : natural ≠ 0) (positive : 0 < divisor) :
    natural.log2 ≤ (natural / divisor).log2 + divisor.log2 + 1 := by
  apply Nat.le_of_lt_succ
  apply (Nat.log2_lt some).mpr
  calc
    natural < (natural / divisor + 1) * divisor := by
      rw [Nat.mul_comm]
      exact Nat.lt_mul_div_succ natural positive
    _ ≤ 2 ^ ((natural / divisor).log2 + 1) * 2 ^ (divisor.log2 + 1) :=
      Nat.mul_le_mul Nat.lt_log2_self Nat.lt_log2_self.le
    _ = _ := by rw [← pow_add]; congr 1; omega

section Operations

variable {magnitude : Binary} {sign sign₁ sign₂ : Sign} {m m₁ m₂ : Nat} {e e₁ e₂ : Int}

theorem reads_exact {number : ℚ} (m : Nat) (e : Int) (value : number = m * 2 ^ e) :
    Reads (.ofMantissaAndAccuracy m .exact) (number / 2 ^ e) := by
  rw [value, mul_div_cancel_right₀ _ (Binary.two_zpow_pos e).ne']
  exact .exact m

/-- What is left of a division is read together with its quotient. -/
theorem reads_quotient (some : 0 < m₂) {t : Int} {places : Nat} (shift : e₁ - e₂ - t = places) :
    Reads (.ofMantissaAndAccuracy (m₁ <<< places / m₂)
        (accuracyOfFraction (m₁ <<< places % m₂) m₂))
      (m₁ * 2 ^ e₁ / (m₂ * 2 ^ e₂) / 2 ^ t) := by
  have positive : (0 : ℚ) < m₂ := by exact_mod_cast some
  have parts : (m₂ : ℚ) * (m₁ <<< places / m₂ : Nat) + (m₁ <<< places % m₂ : Nat) =
      m₁ * 2 ^ places := by
    have parts := Nat.div_add_mod (m₁ <<< places) m₂
    rw [Nat.shiftLeft_eq m₁ places] at parts ⊢
    exact_mod_cast parts
  have powers : (2 : ℚ) ^ e₁ = 2 ^ e₂ * 2 ^ t * 2 ^ places := by
    rw [← zpow_natCast, ← zpow_add₀ two_ne_zero, ← zpow_add₀ two_ne_zero]
    congr 1
    omega
  have value : (m₁ : ℚ) * 2 ^ e₁ / (m₂ * 2 ^ e₂) / 2 ^ t =
      (m₁ <<< places / m₂ : Nat) + (m₁ <<< places % m₂ : Nat) / m₂ := by
    rw [powers]
    field_simp
    linarith
  rw [value]
  exact .fraction _ (Nat.mod_lt _ some)

/-- A number that a mantissa and an exponent stand for rounds to the magnitude that covers it. -/
theorem round_eq (positive : 0 < m) (canonical : magnitude.IsCanonical)
    (covers : magnitude.Covers (m * 2 ^ e)) :
    UnpackedFloat.round Format.binary64 sign m e =
      .finite sign magnitude.m magnitude.q canonical.positive := by
  simp only [UnpackedFloat.round, decreaseExponent, targetExponent_eq]
  generalize amount : (e - aim m e).toNat = places
  apply roundWithAccuracy_eq sign _ _ canonical covers
  · apply reads_exact
    rw [Nat.shiftLeft_eq, Nat.cast_mul, mul_assoc, Nat.cast_pow, Nat.cast_ofNat, ← zpow_natCast,
      ← zpow_add₀ two_ne_zero, add_sub_cancel]
  · rw [aim, log2_shiftLeft positive]
    rw [aim] at amount
    omega

/-- A product rounds to the magnitude that covers it, when its mantissas are long enough. -/
theorem mul_eq (some₁ : 0 < m₁) (some₂ : 0 < m₂) (long : 2 ^ 52 ≤ m₁ * m₂)
    (canonical : magnitude.IsCanonical)
    (covers : magnitude.Covers (m₁ * 2 ^ e₁ * (m₂ * 2 ^ e₂))) :
    UnpackedFloat.mul Format.binary64 (.finite sign₁ m₁ e₁ some₁) (.finite sign₂ m₂ e₂ some₂) =
      .finite (sign₁ * sign₂) magnitude.m magnitude.q canonical.positive := by
  apply roundWithAccuracy_eq _ _ _ canonical covers
  · apply reads_exact
    rw [mul_mul_mul_comm, ← zpow_add₀ two_ne_zero, Nat.cast_mul]
  · have bits : 52 ≤ (m₁ * m₂).log2 := (Nat.le_log2 (Nat.mul_pos some₁ some₂).ne').mpr long
    rw [aim]
    omega

/-- A quotient rounds to the magnitude that covers it. -/
theorem div_eq (some₁ : 0 < m₁) (some₂ : 0 < m₂) (canonical : magnitude.IsCanonical)
    (covers : magnitude.Covers (m₁ * 2 ^ e₁ / (m₂ * 2 ^ e₂))) :
    UnpackedFloat.div Format.binary64 (.finite sign₁ m₁ e₁ some₁) (.finite sign₂ m₂ e₂ some₂) =
      .finite (sign₁ / sign₂) magnitude.m magnitude.q canonical.positive := by
  have aims : Format.binary64.targetExponent (totalExponent m₁ e₁ - totalExponent m₂ e₂) =
      max ((m₁.log2 : Int) - m₂.log2 + (e₁ - e₂) - 53) (-1074) := by
    have differs : totalExponent m₁ e₁ - totalExponent m₂ e₂ =
        (m₁.log2 : Int) - m₂.log2 + (e₁ - e₂) := by
      unfold totalExponent
      omega
    rw [differs]
    rfl
  simp only [UnpackedFloat.div, divCore, aims]
  generalize target :
    min (e₁ - e₂) (max ((m₁.log2 : Int) - m₂.log2 + (e₁ - e₂) - 53) (-1074)) = t
  generalize amount : (e₁ - e₂ - t).toNat = places
  apply roundWithAccuracy_eq _ _ _ canonical covers
  · exact reads_quotient some₂ (by omega)
  · -- The quotient has as many digits as the mantissas differ by, or one less.
    have long := log2_shiftLeft some₁ places
    have shifted : m₁ <<< places ≠ 0 := by
      rw [Nat.shiftLeft_eq]
      exact (Nat.mul_pos some₁ (Nat.two_pow_pos places)).ne'
    have := log2_le_div shifted some₂
    rw [aim]
    omega

end Operations

end Transcript.Decimal
